import ChordChart.Proofs.Voicing.Bass

/-! How low voicings reach. A layout goes an octave below its base at most. A run of nearest pitches
goes half an octave further down with each chord at most, and so keeps room for a bass as long as it
is short for its octave. -/
namespace ChordChart

namespace Placement

theorem pianistFloor {base : Int} {tones : List PitchClass} :
    ∀ pitch ∈ pianist base tones, base - 12 ≤ pitch := by
  cases tones with
  | nil => simp [pianist]
  | cons root others =>
    refine List.forall_mem_cons.mpr ⟨atOrAboveFloor _ _, fun pitch member => ?_⟩
    obtain ⟨pc, -, rfl⟩ := List.mem_map.mp member
    have floor := atOrAboveFloor pc base
    omega

theorem handsFloor {base : Int} {chord : Chord} :
    ∀ pitch ∈ hands base chord, base - 12 ≤ pitch := by
  have left := atOrAboveFloor chord.root (base - 12)
  refine List.forall_mem_cons.mpr ⟨left, List.forall_mem_append.mpr ⟨?_, ?_⟩⟩
  · intro pitch member
    obtain ⟨pc, -, rfl⟩ := List.mem_map.mp member
    have floor := atOrAboveFloor pc (atOrAbove chord.root (base - 12) + 1)
    omega
  · intro pitch member
    have floor := stackFloor (by decide) pitch member
    omega

theorem doubledFloor {floor : Int} {pitches : List Int} (bounded : ∀ pitch ∈ pitches, floor ≤ pitch) :
    ∀ pitch ∈ doubledTop pitches, floor ≤ pitch := by
  unfold doubledTop
  split
  · rename_i top last
    have high := bounded top (List.mem_of_getLast? last)
    split
    · intro pitch member
      rw [List.mem_singleton.mp member]
      omega
    · simp
  · simp

theorem cocktailFloor {base : Int} {chord : Chord} :
    ∀ pitch ∈ cocktail base chord, base - 12 ≤ pitch := by
  intro pitch member
  have right : ∀ pitch ∈ stack 1 base (rightTones chord), base - 12 ≤ pitch := by
    intro pitch member
    have floor := stackFloor (by decide) pitch member
    omega
  rcases List.mem_append.mp ((cocktailHands base chord).mem_iff.mp member) with doubled | played
  · exact doubledFloor right pitch doubled
  · exact handsFloor pitch played

end Placement

namespace Voicing

open Placement

theorem closeFloor {base : Int} {tones : List PitchClass} :
    ∀ pitch ∈ close base tones, base ≤ pitch := stackFloor (by decide)

theorem pitchesFloor {chord : Chord} {strategy : Strategy} (settled : strategy ≠ .smooth)
    {base : Int} {previous : List Key} :
    ∀ pitch ∈ pitches chord strategy base previous, base - 12 ≤ pitch := by
  intro pitch member
  cases strategy with
  | smooth => contradiction
  | pianist => exact pianistFloor pitch member
  | cocktail => exact cocktailFloor pitch member
  | rootPosition =>
    have floor := closeFloor pitch member
    omega
  | firstInversion | secondInversion =>
    have floor := raisedFloor (takeRaised _ _) closeFloor pitch member
    omega
  | openPosition =>
    have floor := raisedFloor (alternateRaised _) closeFloor pitch member
    omega
  | spread =>
    have floor := stackFloor (by decide) pitch member
    omega

theorem smoothFloor {chord : Chord} (formed : chord.WellFormed) {floor base : Int}
    (reach : floor ≤ 110) (under : floor ≤ base) {previous : List Key}
    (bounded : ∀ key ∈ previous, floor + 6 ≤ key.toNat) :
    ∀ pitch ∈ pitches chord .smooth base previous, floor ≤ pitch := by
  intro pitch member
  unfold pitches at member
  dsimp only at member
  split at member
  · exact Int.le_trans under (closeFloor pitch member)
  · rename_i some
    obtain ⟨pc, among, rfl⟩ := List.mem_map.mp member
    have kept := nearestFloor (by simpa using some) (by omega) bounded (formed.classes pc among)
    omega

theorem notesFloor {chord : Chord} {strategy : Strategy} {octave : UInt8} {previous : List Key}
    {floor : Int} (reach : floor ≤ 116)
    (bounded : ∀ pitch ∈ pitches chord strategy (12 * octave.toNat) previous, floor ≤ pitch) :
    ∀ key ∈ (ofChord chord strategy octave previous).notes, floor ≤ key.toNat := by
  intro key member
  have struck := (notesPitches chord strategy octave previous).mem_iff.mp member
  obtain ⟨pitch, among, rfl⟩ := List.mem_map.mp struck
  exact foldFloor reach (bounded pitch among)

theorem roomFounded {chord : Chord} (formed : chord.WellFormed) {strategy : Strategy}
    {octave : UInt8} {previous : List Key}
    (room : ∀ key ∈ (ofChord chord strategy octave previous).notes, (12 : Int) ≤ key.toNat) :
    (ofChord chord strategy octave previous).Founded := by
  refine (bassFounded formed strategy octave previous).2.1.mpr fun key member => ?_
  have low : chord.bass.toNat < 12 := formed.bass
  have high := room key member
  rw [UInt8.lt_iff_toNat_lt]
  omega

theorem chordsVoiced {strategy : Strategy} {octave : UInt8} {previous : List Key}
    {chords : List Chord} :
    ∀ voicing ∈ ofChords strategy octave previous chords, ∃ chord ∈ chords, ∃ before,
      voicing = ofChord chord strategy octave before := by
  induction chords generalizing previous with
  | nil => simp [ofChords]
  | cons chord chords ih =>
    refine List.forall_mem_cons.mpr ⟨⟨chord, List.mem_cons_self, previous, rfl⟩, ?_⟩
    intro voicing member
    obtain ⟨other, among, before, same⟩ := ih voicing member
    exact ⟨other, List.mem_cons_of_mem _ among, before, same⟩

theorem chordsFloor {octave : UInt8} {previous : List Key} {chords : List Chord}
    (formed : ∀ chord ∈ chords, chord.WellFormed) {floor : Int} (reach : floor ≤ 110)
    (under : floor ≤ 12 * octave.toNat) (bounded : ∀ key ∈ previous, floor + 6 ≤ key.toNat) {i : Nat}
    {voicing : Voicing} (found : (ofChords .smooth octave previous chords)[i]? = some voicing) :
    ∀ key ∈ voicing.notes, floor - 6 * i ≤ key.toNat := by
  -- the floor falls by half an octave with each chord; it is stated half an octave below the keys
  -- before, so that the first chord of a run, which has none, is like the others
  induction chords generalizing previous floor i with
  | nil => simp [ofChords] at found
  | cons chord chords ih =>
    obtain ⟨first, others⟩ := List.forall_mem_cons.mp formed
    have kept := notesFloor (by omega) (smoothFloor first reach under bounded)
    cases i with
    | zero =>
      cases found
      simpa using kept
    | succ i =>
      have next : ∀ key ∈ (ofChord chord .smooth octave previous).notes,
          floor - 6 + 6 ≤ (key.toNat : Int) := by
        simpa using kept
      have later := ih others (by omega) (by omega) next found
      intro key member
      have bound := later key member
      omega

theorem chordsFounded {strategy : Strategy} {octave : UInt8} (low : 2 ≤ octave.toNat)
    (high : octave.toNat ≤ 9) {chords : List Chord} (formed : ∀ chord ∈ chords, chord.WellFormed)
    {i : Nat} {voicing : Voicing} (found : (ofChords strategy octave [] chords)[i]? = some voicing)
    (early : strategy = .smooth → i < 2 * octave.toNat - 1) : voicing.Founded := by
  obtain ⟨chord, among, before, same⟩ := chordsVoiced voicing (List.mem_of_getElem? found)
  by_cases smooth : strategy = .smooth
  · have bound := early smooth
    subst smooth
    have floor := chordsFloor formed (by omega) (Int.le_refl _) (by simp) found
    subst same
    refine roomFounded (formed chord among) fun key member => ?_
    have reached := floor key member
    omega
  · subst same
    refine roomFounded (formed chord among) fun key member => ?_
    have reached := notesFloor (by omega) (pitchesFloor smooth) key member
    omega

end Voicing

end ChordChart
