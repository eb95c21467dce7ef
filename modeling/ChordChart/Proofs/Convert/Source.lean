import ChordChart.Proofs.Convert
import ChordChart.Proofs.Disk.Path
import ChordChart.Proofs.PianoRoll

/-! What becomes of a progression file that is converted without an output path. The song is written
next to it under another ending, and the file is kept; but a file that has this ending already is
its own output, and its text is lost. -/
namespace ChordChart

namespace Path

def NamedMidi (path : String) : Prop :=
  ∃ front c, path.toList = front ++ c :: ['.', 'm', 'i', 'd'] ∧ c ≠ '/'

theorem midiIff {before name : List Char} (opened : Opens before) (free : '/' ∉ name) :
    NamedMidi (String.ofList (before ++ name)) ↔
      ∃ front, front ≠ [] ∧ name = front ++ ['.', 'm', 'i', 'd'] := by
  unfold NamedMidi
  rw [String.toList_ofList]
  constructor
  · rintro ⟨front, c, parted, letter⟩
    obtain ⟨start, rest, opens, clean, same⟩ := cutLast (front ++ [c])
    have whole : before ++ name = start ++ (rest ++ ['.', 'm', 'i', 'd']) := by
      rw [parted, ← List.append_assoc, ← same, List.append_assoc, List.singleton_append]
    obtain ⟨-, last⟩ := cutUnique opened free opens (by simp [clean]) whole
    refine ⟨rest, ?_, last⟩
    rintro rfl
    rw [List.append_nil] at same
    cases opens with
    | start => simp at same
    | slash before => exact letter (by simpa using (List.append_inj' same rfl).2)
  · rintro ⟨front, some, rfl⟩
    have last := List.dropLast_append_getLast some
    refine ⟨before ++ front.dropLast, front.getLast some, ?_, fun slash => free ?_⟩
    · rw [List.append_assoc, List.append_cancel_left_eq]
      simpa using congrArg (· ++ ['.', 'm', 'i', 'd']) last.symm
    · exact List.mem_append_left _ (slash ▸ List.getLast_mem some)

end Path

namespace Convert

open ChordChart.Path (Opens renamed)

def midi : List Char := ['m', 'i', 'd']

theorem outputNamed {before name : List Char} (opened : Opens before) (free : '/' ∉ name)
    (some : name ≠ []) (dot : name ≠ ['.']) :
    defaultOutput (String.ofList (before ++ name)) = String.ofList (before ++ renamed name midi) :=
  Path.withEndingNamed opened free some dot "mid"

theorem outputSame {before name : List Char} (opened : Opens before) (free : '/' ∉ name)
    (some : name ≠ []) (dot : name ≠ ['.']) :
    defaultOutput (String.ofList (before ++ name)) = String.ofList (before ++ name) ↔
      renamed name midi = name := by
  rw [outputNamed opened free some dot, ← String.toList_inj, String.toList_ofList,
    String.toList_ofList, List.append_cancel_left_eq]

theorem fileDone {input path : String} {options : Options} {disk later : Tree} {song : Song}
    (ok : (file input none options : StateM Tree (Except ConvertError (String × Song))) disk =
      (.ok (path, song), later)) :
    path = defaultOutput input ∧ ∃ text, disk.readText input = .ok text ∧
      Song.generate { options with progression := progressionOfText text } = .ok song ∧
        disk.write (defaultOutput input) song.bytes = .ok later := by
  cases outcomeAnswer.mp ok with
  | done read made wrote => exact ⟨rfl, _, read, made, wrote⟩

section

variable {disk later : Tree} {input : String} {bytes content : Midi.Bytes} {location : Location}
  (written : disk.Written (defaultOutput input) bytes later)
  (found : disk.find input = .ok (location, .file content))

include written found

theorem keptBeside (other : defaultOutput input ≠ input) :
    later.find input = .ok (location, .file content) := by
  obtain ⟨leads, there⟩ := Tree.findLeads.mp found
  obtain ⟨before, name, opened, free, some, dot, rfl⟩ := Tree.fileNamed leads there
  obtain ⟨place, led, nodes⟩ := written.placed
  rw [Ne, outputSame opened free some dot] at other
  rw [outputNamed opened free some dot] at led
  have dots : name ≠ ['.', '.'] := by
    rintro rfl
    exact other rfl
  have still := Tree.leadsKept written.keeps leads
  have clean : '/' ∉ renamed name midi := Path.renamedFree free (by decide)
  obtain ⟨parent, inside, beside⟩ := Tree.leadsInside opened free still
  have apart := Tree.placesApart some dot dots (Path.renamedLong some midi) other inside
    (beside _ _ clean led)
  exact Tree.findLeads.mpr ⟨still, by rw [nodes, if_neg apart.symm, there]⟩

theorem lostInPlace (same : defaultOutput input = input) :
    later.find input = .ok (location, .file bytes) := by
  obtain ⟨leads, -⟩ := Tree.findLeads.mp found
  obtain ⟨place, led, nodes⟩ := written.placed
  have still := Tree.leadsKept written.keeps leads
  rw [same] at led
  cases still.walked.symm.trans led.walked
  exact Tree.findLeads.mpr ⟨still, by rw [nodes, if_pos rfl]⟩

theorem rootedSame (rooted : disk.Rooted) :
    defaultOutput input = input ↔ Path.NamedMidi input := by
  obtain ⟨leads, there⟩ := Tree.findLeads.mp found
  obtain ⟨before, name, opened, free, some, dot, rfl⟩ := Tree.fileNamed leads there
  obtain ⟨parent, inside, -⟩ := Tree.leadsInside opened free leads
  have above := rooted parent _ inside.directory
  have dots : name ≠ ['.', '.'] := by
    rintro rfl
    rw [Tree.insideUp inside, above] at there
    cases there
  have lone : Path.stem name ≠ ['.'] := by
    intro lone
    obtain ⟨place, led, nodes⟩ := written.placed
    rw [outputNamed opened free some dot, renamed, if_pos (.inr lone)] at led
    obtain ⟨again, same, beside⟩ :=
      Tree.leadsInside opened free (Tree.leadsKept written.keeps leads)
    have one := (Tree.insideDown some dot dots inside).symm.trans (Tree.insideDown some dot dots same)
    obtain ⟨rfl, -⟩ := List.append_inj' one rfl
    have directory := written.keeps.directories _ above
    rw [nodes, if_pos (Tree.insideUp (beside _ _ (by decide) led)).symm] at directory
    cases directory
  rw [outputSame opened free some dot, Path.midiIff opened free]
  exact Path.renamedSame some dots lone (by decide)

end

theorem fileWrites {input text : String} {options : Options} {disk later : Tree} {song : Song}
    (read : disk.readText input = .ok text)
    (made : Song.generate { options with progression := progressionOfText text } = .ok song)
    (wrote : disk.write (defaultOutput input) song.bytes = .ok later) :
    (file input none options : StateM Tree (Except ConvertError (String × Song))) disk =
      (.ok (defaultOutput input, song), later) :=
  outcomeAnswer.mpr (.done read made wrote)

def songAt (name : String) : Tree := ⟨[([name], .file [67, 32, 82, 58, 49, 32, 67])], []⟩

theorem songRooted (name : String) : (songAt name).Rooted := by
  intro location node there
  unfold Tree.node? at there
  split at there
  · rename_i root
    rw [root]
    rfl
  · obtain ⟨entry, first, -⟩ := Option.map_eq_some_iff.mp there
    have same : location = [name] := by
      have listed := List.mem_of_find?_eq_some first
      have known := List.find?_some first
      simp only [songAt, List.mem_singleton] at listed
      rw [listed, beq_iff_eq] at known
      exact known.symm
    rw [same]
    rfl

def bare : Options := { output := .bassOnly }

theorem songConverted {name : String} {place : Location}
    (read : (songAt name).readText name = .ok "C R:1 C")
    (target : (songAt name).target (defaultOutput name) = .ok place)
    (free : (songAt name).node? place ≠ some .directory) :
    ∃ later, (file name none bare : StateM Tree (Except ConvertError (String × Song)))
      (songAt name) = (.ok (defaultOutput name, Song.pauseSong), later) := by
  have joined : progressionOfText "C R:1 C" = "C R:1 C" := by decide +kernel
  have made : Song.generate { bare with progression := progressionOfText "C R:1 C" } =
      .ok Song.pauseSong := joined.symm ▸ Song.pauseGenerated
  obtain ⟨later, wrote⟩ :
      ∃ later, (songAt name).write (defaultOutput name) Song.pauseSong.bytes = .ok later := by
    simp only [Tree.write, target]
    exact ⟨_, if_neg free⟩
  exact ⟨later, fileWrites read made wrote⟩

theorem midiOverwritten : ∃ later,
    (file "song.mid" none bare : StateM Tree (Except ConvertError (String × Song)))
        (songAt "song.mid") = (.ok ("song.mid", Song.pauseSong), later) ∧
      (songAt "song.mid").find "song.mid" =
        .ok (["song.mid"], .file [67, 32, 82, 58, 49, 32, 67]) ∧
      later.find "song.mid" ≠ (songAt "song.mid").find "song.mid" := by
  have own : defaultOutput "song.mid" = "song.mid" := by decide +kernel
  have found : (songAt "song.mid").find "song.mid" =
      .ok (["song.mid"], .file [67, 32, 82, 58, 49, 32, 67]) := by decide +kernel
  have target : (songAt "song.mid").target (defaultOutput "song.mid") = .ok ["song.mid"] := by
    decide +kernel
  obtain ⟨later, done⟩ := songConverted (by decide +kernel) target (by decide +kernel)
  obtain ⟨-, text, -, -, wrote⟩ := fileDone done
  have lost := lostInPlace (Tree.writeLeaves wrote) found own
  rw [own] at done
  refine ⟨later, done, found, ?_⟩
  rw [found, lost]
  decide

theorem sourceKept {input path : String} {options : Options} {disk later : Tree} {song : Song}
    (ok : (file input none options : StateM Tree (Except ConvertError (String × Song))) disk =
      (.ok (path, song), later)) :
    path = defaultOutput input ∧
      ∃ location content, disk.find input = .ok (location, .file content) ∧
        (later.find input = .ok (location, .file content) ↔ defaultOutput input ≠ input) ∧
        (defaultOutput input = input → later.find input = .ok (location, .file song.bytes)) ∧
        (disk.Rooted → (defaultOutput input = input ↔ Path.NamedMidi input)) := by
  obtain ⟨named, text, read, made, wrote⟩ := fileDone ok
  have written := Tree.writeLeaves wrote
  obtain ⟨location, content, found, known⟩ := Tree.readSource read
  refine ⟨named, location, content, found, ⟨fun kept same => ?_, keptBeside written found⟩,
    lostInPlace written found, rootedSame written found⟩
  cases kept.symm.trans (lostInPlace written found same)
  cases known.symm.trans (Midi.encodedNoText (Song.generateParts made).2.1)

theorem textKept :
    (songAt "song.txt").Rooted ∧ ¬ Path.NamedMidi "song.txt" ∧ ∃ later,
      (file "song.txt" none bare : StateM Tree (Except ConvertError (String × Song)))
          (songAt "song.txt") = (.ok (defaultOutput "song.txt", Song.pauseSong), later) ∧
        later.find "song.txt" = .ok (["song.txt"], .file [67, 32, 82, 58, 49, 32, 67]) := by
  have other : ¬ Path.NamedMidi "song.txt" := by
    rintro ⟨front, c, same, -⟩
    have last := congrArg List.getLast? same
    simp at last
  have found : (songAt "song.txt").find "song.txt" =
      .ok (["song.txt"], .file [67, 32, 82, 58, 49, 32, 67]) := by decide +kernel
  have target : (songAt "song.txt").target (defaultOutput "song.txt") = .ok ["song.mid"] := by
    decide +kernel
  obtain ⟨later, done⟩ := songConverted (by decide +kernel) target (by decide +kernel)
  obtain ⟨-, location, content, source, kept, -, ending⟩ := sourceKept done
  cases found.symm.trans source
  have beside : defaultOutput "song.txt" ≠ "song.txt" := fun same =>
    other ((ending (songRooted _)).mp same)
  exact ⟨songRooted _, other, later, done, kept.mpr beside⟩

end Convert

end ChordChart
