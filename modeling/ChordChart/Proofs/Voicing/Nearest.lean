import ChordChart.Proofs.Voicing.Placement

/-! The nearest pitch of a class. It is a key of the class, no other key of the class is nearer to
the keys before, and of several as near it is the lowest. So it lies at most half an octave below
the lowest of the keys before. -/
namespace ChordChart.Placement

theorem distanceBound {keys : List Key} {key : Key} (member : key ∈ keys) (pitch : Int) :
    distanceToNearest pitch keys ≤ (pitch - key.toNat).natAbs :=
  List.min?_getD_le_of_mem (List.mem_map_of_mem member)

theorem distanceReached {keys : List Key} (some : keys ≠ []) (pitch : Int) :
    ∃ key ∈ keys, distanceToNearest pitch keys = (pitch - key.toNat).natAbs := by
  have least : (keys.map fun key => (pitch - key.toNat).natAbs).min? ≠ none := by
    simpa using some
  obtain ⟨distance, found⟩ := Option.ne_none_iff_exists'.mp least
  obtain ⟨key, member, same⟩ := List.mem_map.mp (List.min?_mem found)
  exact ⟨key, member, by rw [distanceToNearest, found, Option.getD_some, same]⟩

theorem nearerMember (previous : List Key) (first : Int) (others : List Int) :
    others.foldl (nearer previous) first ∈ first :: others := by
  induction others generalizing first with
  | nil => exact List.mem_cons_self
  | cons second others ih =>
    rw [List.foldl_cons]
    rcases List.mem_cons.mp (ih (nearer previous first second)) with same | later
    · rw [same, nearer]
      split <;> simp
    · simp [later]

def Beats (previous : List Key) (best pitch : Int) : Prop :=
  distanceToNearest best previous < distanceToNearest pitch previous ∨
    distanceToNearest best previous = distanceToNearest pitch previous ∧ best ≤ pitch

theorem beatsClosest {previous : List Key} {best pitch : Int} (beats : Beats previous best pitch) :
    distanceToNearest best previous ≤ distanceToNearest pitch previous := by
  unfold Beats at beats
  omega

theorem beatsThrough {previous : List Key} {best middle pitch : Int}
    (first : Beats previous best middle) (second : Beats previous middle pitch) :
    Beats previous best pitch := by
  unfold Beats at first second ⊢
  omega

theorem nearerBeats (previous : List Key) {first second : Int} (upward : first < second) :
    Beats previous (nearer previous first second) first ∧
      Beats previous (nearer previous first second) second ∧
        nearer previous first second ≤ second := by
  unfold nearer Beats
  split <;> omega

theorem nearerLowest (previous : List Key) {first : Int} {others : List Int}
    (ascending : (first :: others).Pairwise (· < ·)) :
    ∀ pitch ∈ first :: others, Beats previous (others.foldl (nearer previous) first) pitch := by
  induction others generalizing first with
  | nil => simp [Beats]
  | cons second others ih =>
    obtain ⟨above, rest⟩ := List.pairwise_cons.mp ascending
    obtain ⟨later, last⟩ := List.pairwise_cons.mp rest
    obtain ⟨one, two, under⟩ := nearerBeats previous (above second List.mem_cons_self)
    have next : (nearer previous first second :: others).Pairwise (· < ·) :=
      List.pairwise_cons.mpr ⟨fun pitch member => Int.lt_of_le_of_lt under (later pitch member), last⟩
    obtain ⟨best, beaten⟩ := List.forall_mem_cons.mp (ih next)
    rw [List.foldl_cons]
    exact List.forall_mem_cons.mpr
      ⟨beatsThrough best one, List.forall_mem_cons.mpr ⟨beatsThrough best two, beaten⟩⟩

theorem classAscending (pc : PitchClass) : (keysOfClass pc).Pairwise (· < ·) := by
  refine List.Pairwise.filter _ (List.pairwise_map.mpr (List.pairwise_lt_range.imp ?_))
  intro low high upward
  omega

theorem classHasKeys {pc : PitchClass} (known : pc < 12) :
    ∃ lowest others, keysOfClass pc = lowest :: others := by
  have small : pc.toNat < 12 := known
  have lowest : (pc.toNat : Int) ∈ keysOfClass pc :=
    (keysOfClassIff known).mpr ⟨classKnown (by omega), by omega, by omega⟩
  cases keys : keysOfClass pc with
  | nil => simp [keys] at lowest
  | cons first others => exact ⟨first, others, rfl⟩

theorem nearestMember (previous : List Key) {pc : PitchClass} (known : pc < 12) :
    nearest previous pc ∈ keysOfClass pc := by
  obtain ⟨lowest, others, keys⟩ := classHasKeys known
  rw [nearest, keys]
  exact nearerMember previous lowest others

theorem nearestClass (previous : List Key) {pc : PitchClass} (known : pc < 12) :
    classOf (nearest previous pc) = pc :=
  ((keysOfClassIff known).mp (nearestMember previous known)).1

theorem nearestBeats (previous : List Key) {pc : PitchClass} (known : pc < 12) {pitch : Int}
    (member : pitch ∈ keysOfClass pc) : Beats previous (nearest previous pc) pitch := by
  obtain ⟨lowest, others, keys⟩ := classHasKeys known
  have ascending := classAscending pc
  rw [keys] at member ascending
  rw [nearest, keys]
  exact nearerLowest previous ascending pitch member

theorem nearestReach {previous : List Key} {key : Key} (member : key ∈ previous)
    (low : 6 ≤ key.toNat) (high : key.toNat ≤ 121) {pc : PitchClass} (known : pc < 12) :
    distanceToNearest (nearest previous pc) previous ≤ 6 := by
  have small : pc.toNat < 12 := known
  obtain ⟨pitch, octave, same⟩ : ∃ pitch : Int,
      (key.toNat - 6 ≤ pitch ∧ pitch ≤ key.toNat + 5) ∧ pitch % 12 = pc.toNat :=
    ⟨key.toNat - 6 + (pc.toNat - (key.toNat - 6)) % 12, by omega, by omega⟩
  have among : pitch ∈ keysOfClass pc :=
    (keysOfClassIff known).mpr ⟨classKnown same, by omega, by omega⟩
  have closest := beatsClosest (nearestBeats previous known among)
  have bound := distanceBound member pitch
  omega

theorem nearestFloor {previous : List Key} (some : previous ≠ []) {floor : Int}
    (reach : floor ≤ 116) (bounded : ∀ key ∈ previous, floor ≤ key.toNat) {pc : PitchClass}
    (known : pc < 12) : floor - 6 ≤ nearest previous pc := by
  obtain ⟨same, low, high⟩ := (keysOfClassIff known).mp (nearestMember previous known)
  refine Int.not_lt.mp fun deep => ?_
  have above : nearest previous pc + 12 ∈ keysOfClass pc :=
    (keysOfClassIff known).mpr ⟨by rw [classOctave, same], by omega, by omega⟩
  have closest := beatsClosest (nearestBeats previous known above)
  obtain ⟨key, member, distance⟩ := distanceReached some (nearest previous pc)
  have bound := distanceBound member (nearest previous pc + 12)
  have floored := bounded key member
  omega

end ChordChart.Placement
