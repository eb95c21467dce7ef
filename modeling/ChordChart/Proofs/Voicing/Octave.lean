import ChordChart.Proofs.Voicing.Bass
import ChordChart.Proofs.Voicing.Register

/-! A voicing one octave higher. Each layout is placed against its base alone, so that a base an
octave higher moves every pitch by an octave. The keys follow as long as none was folded and none
has to be now, and so does the way of the bass down below them. -/
namespace ChordChart

theorem foldHigher {pitch : Int} (low : 0 ≤ pitch) (high : (foldIntoRange pitch).toNat ≤ 115) :
    pitch ≤ 115 ∧ foldIntoRange (pitch + 12) = foldIntoRange pitch + 12 := by
  have here := foldPlaces pitch
  have there := foldPlaces (pitch + 12)
  refine ⟨by omega, UInt8.toNat_inj.mp ?_⟩
  simp only [UInt8.toNat_add, UInt8.reduceToNat]
  omega

theorem keyHigher {key : Key} (room : key ≤ 115) : (key + 12).toNat = key.toNat + 12 := by
  have high : key.toNat ≤ 115 := room
  simp only [UInt8.toNat_add, UInt8.reduceToNat]
  omega

namespace Placement

theorem atOrAboveHigher (pc : PitchClass) (floor : Int) :
    atOrAbove pc (floor + 12) = atOrAbove pc floor + 12 := by
  unfold atOrAbove
  dsimp only
  split <;> split <;> omega

theorem leftHigher (pc : PitchClass) (base : Int) :
    atOrAbove pc (base + 12 - 12) = atOrAbove pc (base - 12) + 12 := by
  rw [← atOrAboveHigher, Int.sub_add_cancel, Int.add_sub_cancel]

theorem stackHigher (gap floor : Int) (pcs : List PitchClass) :
    stack gap (floor + 12) pcs = (stack gap floor pcs).map (· + 12) := by
  induction pcs generalizing floor with
  | nil => rfl
  | cons pc pcs ih =>
    rw [stack, stack, atOrAboveHigher, List.map_cons, Int.add_right_comm, ih]

theorem invertHigher (count : Nat) (pitches : List Int) :
    invert count (pitches.map (· + 12)) = (invert count pitches).map (· + 12) := by
  simp [invert, List.map_take, List.map_drop]

theorem alternateHigher (pitches : List Int) :
    raiseAlternate (pitches.map (· + 12)) = (raiseAlternate pitches).map (· + 12) := by
  fun_induction raiseAlternate pitches with
  | case1 low next rest ih => simp [raiseAlternate, ih]
  | case2 pitches few =>
    match pitches with
    | [] => rfl
    | [pitch] => rfl
    | low :: next :: rest => exact absurd rfl (few low next rest)

theorem pianistHigher (base : Int) (tones : List PitchClass) :
    pianist (base + 12) tones = (pianist base tones).map (· + 12) := by
  cases tones with
  | nil => rfl
  | cons root others =>
    simp only [pianist, leftHigher, atOrAboveHigher, List.map_cons, List.map_map,
      Function.comp_def]

theorem doubledHigher {pitches : List Int} (room : ∀ pitch ∈ pitches, pitch ≤ 115)
    (doubled : ∀ pitch ∈ doubledTop pitches, pitch ≤ 115) :
    doubledTop (pitches.map (· + 12)) = (doubledTop pitches).map (· + 12) := by
  unfold doubledTop at doubled ⊢
  rw [List.getLast?_map]
  cases last : pitches.getLast? with
  | none => rfl
  | some top =>
    have under := room top (List.mem_of_getLast? last)
    have struck : top + 12 ≤ 127 := by omega
    simp only [last, if_pos struck, List.forall_mem_singleton] at doubled
    have again : top + 12 + 12 ≤ 127 := by omega
    simp only [Option.map_some, if_pos struck, if_pos again]
    rfl

theorem cocktailParts (base : Int) (chord : Chord) :
    cocktail base chord =
      atOrAbove chord.root (base - 12) ::
          (shell? chord).toList.map
            (fun pc => atOrAbove pc (atOrAbove chord.root (base - 12) + 1)) ++
        doubledTop (stack 1 base (rightTones chord)) ++ stack 1 base (rightTones chord) :=
  rfl

theorem cocktailHigher {base : Int} {chord : Chord}
    (room : ∀ pitch ∈ cocktail base chord, pitch ≤ 115) :
    cocktail (base + 12) chord = (cocktail base chord).map (· + 12) := by
  have struck : ∀ pitch ∈ doubledTop (stack 1 base (rightTones chord)) ++ hands base chord,
      pitch ≤ 115 := fun pitch member => room pitch ((cocktailHands base chord).mem_iff.mpr member)
  obtain ⟨doubled, played⟩ := List.forall_mem_append.mp struck
  have right := doubledHigher (fun pitch member => played pitch (List.mem_append_right _ member))
    doubled
  rw [cocktailParts, cocktailParts, leftHigher, stackHigher, right]
  simp only [Int.add_right_comm _ 12 1, atOrAboveHigher, List.map_append, List.map_cons,
    List.map_map, Function.comp_def]

theorem lowerBelowHigher (ceiling pitch : Int) :
    lowerBelow (ceiling + 12) (pitch + 12) = lowerBelow ceiling pitch + 12 := by
  unfold lowerBelow
  split <;> split <;> omega

theorem lowerBelowFloor (ceiling pitch : Int) :
    pitch ≤ lowerBelow ceiling pitch ∨ ceiling - 12 ≤ lowerBelow ceiling pitch := by
  unfold lowerBelow
  split <;> omega

theorem bassHigher {base : Int} (low : 12 ≤ base) {lowest : Key} (above : 12 ≤ lowest.toNat)
    (room : lowest ≤ 115) (pc : PitchClass) :
    (foldIntoRange (bassBelow (base + 12) (some (lowest + 12)) pc)).toNat =
      (foldIntoRange (bassBelow base (some lowest) pc)).toNat + 12 := by
  have high : lowest.toNat ≤ 115 := room
  have higher : bassBelow (base + 12) (some (lowest + 12)) pc =
      bassBelow base (some lowest) pc + 12 := by
    have start : base + 12 - 12 + (pc.toNat : Int) = base - 12 + pc.toNat + 12 := by omega
    have ceiling : ((lowest + 12).toNat : Int) = lowest.toNat + 12 := by
      rw [keyHigher room, Int.natCast_add]
      rfl
    simp only [bassBelow, start, ceiling, lowerBelowHigher]
  have under : bassBelow base (some lowest) pc < lowest.toNat := lowerBelowUnder _ _
  have kept : 0 ≤ bassBelow base (some lowest) pc := by
    have floor := lowerBelowFloor lowest.toNat (base - 12 + pc.toNat)
    simp only [bassBelow]
    omega
  have here := foldInside kept (by omega)
  have there := @foldInside (bassBelow base (some lowest) pc + 12) (by omega) (by omega)
  rw [higher]
  omega

end Placement

namespace Voicing

open Placement

theorem pitchesHigher {chord : Chord} {strategy : Strategy} (settled : strategy ≠ .smooth)
    {base : Int} {previous later : List Key}
    (room : ∀ pitch ∈ pitches chord strategy base previous, pitch ≤ 115) :
    pitches chord strategy (base + 12) later =
      (pitches chord strategy base previous).map (· + 12) := by
  cases strategy with
  | smooth => contradiction
  | rootPosition => exact stackHigher 1 base chord.tones
  | firstInversion | secondInversion =>
    simp only [pitches, close, stackHigher, invertHigher]
  | pianist => exact pianistHigher base chord.tones
  | openPosition => simp only [pitches, close, stackHigher, alternateHigher]
  | spread => exact stackHigher 12 base chord.tones
  | cocktail => exact cocktailHigher room

theorem ascendingHigher {keys : List Key} (room : ∀ key ∈ keys, key ≤ 115) :
    ascending (keys.map (· + 12)) = (ascending keys).map (· + 12) := by
  refine (List.map_mergeSort fun a first b second => ?_).symm
  have one := keyHigher (room a first)
  have other := keyHigher (room b second)
  rw [decide_eq_decide, UInt8.le_iff_toNat_le, UInt8.le_iff_toNat_le]
  omega

theorem notesHigher {chord : Chord} {strategy : Strategy} (settled : strategy ≠ .smooth)
    {octave above : UInt8} (low : 1 ≤ octave.toNat) (next : above.toNat = octave.toNat + 1)
    {previous later : List Key}
    (room : ∀ key ∈ (ofChord chord strategy octave previous).notes, key ≤ 115) :
    (ofChord chord strategy above later).notes =
      (ofChord chord strategy octave previous).notes.map (· + 12) := by
  have struck : ∀ pitch ∈ pitches chord strategy (12 * octave.toNat) previous,
      foldIntoRange pitch ≤ 115 := fun pitch member =>
    room _ ((notesPitches chord strategy octave previous).mem_iff.mpr (List.mem_map_of_mem member))
  have folded : ∀ pitch ∈ pitches chord strategy (12 * octave.toNat) previous,
      pitch ≤ 115 ∧ foldIntoRange (pitch + 12) = foldIntoRange pitch + 12 := by
    intro pitch member
    have floor := pitchesFloor settled pitch member
    exact foldHigher (by omega) (struck pitch member)
  have base : (12 * above.toNat : Int) = 12 * octave.toNat + 12 := by omega
  have higher := @pitchesHigher chord strategy settled _ previous later fun pitch member =>
    (folded pitch member).1
  have keys : ((pitches chord strategy (12 * octave.toNat) previous).map (· + 12)).map foldIntoRange =
      ((pitches chord strategy (12 * octave.toNat) previous).map foldIntoRange).map (· + 12) := by
    rw [List.map_map, List.map_map]
    exact List.map_congr_left fun pitch member => (folded pitch member).2
  simp only [ofChord, base, higher, keys]
  refine ascendingHigher fun key member => ?_
  obtain ⟨pitch, among, rfl⟩ := List.mem_map.mp member
  exact struck pitch among

theorem settledFloor {chord : Chord} {strategy : Strategy} (settled : strategy ≠ .smooth)
    {octave : UInt8} {previous : List Key} {floor : Int} (reach : floor ≤ 116)
    (under : floor ≤ 12 * octave.toNat - 12) :
    ∀ key ∈ (ofChord chord strategy octave previous).notes, floor ≤ key.toNat :=
  notesFloor reach fun pitch member => Int.le_trans under (pitchesFloor settled pitch member)

theorem octaveRoom {chord : Chord} {strategy : Strategy} (settled : strategy ≠ .smooth)
    {octave : UInt8} {previous : List Key} {key : Key}
    (member : key ∈ (ofChord chord strategy octave previous).notes) (room : key ≤ 115) :
    octave.toNat ≤ 10 := by
  have high : key.toNat ≤ 115 := room
  refine Nat.not_lt.mp fun beyond => ?_
  have floor := settledFloor settled (Int.le_refl 116) (by omega) key member
  omega

theorem octaveHigher {chord : Chord} (made : chord.Made) {strategy : Strategy}
    (settled : strategy ≠ .smooth) {octave : UInt8} (low : 2 ≤ octave) (previous later : List Key)
    (room : ∀ key ∈ (ofChord chord strategy octave previous).notes, key ≤ 115) :
    let voicing := ofChord chord strategy octave previous
    let higher := ofChord chord strategy (octave + 1) later
    (octave + 1).toNat = octave.toNat + 1 ∧
      higher.notes.map UInt8.toNat = voicing.notes.map (fun key => key.toNat + 12) ∧
      higher.bass.toNat = voicing.bass.toNat + 12 := by
  intro voicing higher
  have register : 2 ≤ octave.toNat := low
  obtain ⟨lowest, found, member, -⟩ :=
    lowestVoiced (Chord.madeFormed made) strategy octave previous
  have early := octaveRoom settled member (room lowest member)
  have next : (octave + 1).toNat = octave.toNat + 1 := by
    simp only [UInt8.toNat_add, UInt8.reduceToNat]
    omega
  have notes : higher.notes = voicing.notes.map (· + 12) :=
    notesHigher settled (by omega) next room
  refine ⟨next, ?_, ?_⟩
  · rw [notes, List.map_map]
    exact List.map_congr_left fun key among => keyHigher (room key among)
  · have reached : higher.lowest? = some (lowest + 12) := by
      rw [lowest?, notes, List.head?_map, show voicing.notes.head? = some lowest from found,
        Option.map_some]
    have floor := @settledFloor _ _ settled _ _ 12 (by omega) (by omega) lowest member
    have base : (12 * (octave + 1).toNat : Int) = 12 * octave.toNat + 12 := by omega
    rw [show higher.bass = _ from bassFolded reached, show voicing.bass = _ from bassFolded found,
      base]
    exact bassHigher (by omega) (by omega) (room lowest member) chord.bass

theorem overBassHigher :
    overBass.Made ∧ Strategy.cocktail ≠ .smooth ∧ (2 : UInt8) ≤ 2 ∧
      (ofChord overBass .cocktail 2 []).notes = [14, 21, 30, 42] ∧
      (ofChord overBass .cocktail 2 []).bass = 11 ∧
      (ofChord overBass .cocktail 3 []).notes.map UInt8.toNat = [26, 33, 42, 54] ∧
      (ofChord overBass .cocktail 3 []).bass.toNat = 23 := by
  have made : overBass.Made := .stacked (by decide)
  have settled : Strategy.cocktail ≠ .smooth := by decide
  have register : (2 : UInt8) ≤ 2 := by decide
  have voiced : ofChord overBass .cocktail 2 [] = ⟨[14, 21, 30, 42], 11⟩ := by cbv
  have room : ∀ key ∈ ([14, 21, 30, 42] : List Key), key ≤ 115 := by simp
  obtain ⟨-, notes, bass⟩ := octaveHigher made settled register [] [] (voiced ▸ room)
  rw [voiced] at notes bass ⊢
  exact ⟨made, settled, register, rfl, rfl, notes, bass⟩

end Voicing

end ChordChart
