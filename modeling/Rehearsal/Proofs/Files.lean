import Rehearsal.Files
import Rehearsal.Proofs.Text.Split

namespace Rehearsal

def Files.alone (name : Text) (content : Bytes) : Files := { entries := [([name], .file content)] }

theorem Path.parts_eq (path : String) :
    parts path = (((path.toList.splitOn '/').map String.ofList).filter fun part =>
      part != "" && part != ".").map Text.whole := by
  rw [parts, show "/" = String.singleton '/' from rfl, Text.splitOn_singleton]

theorem Path.parts_single {name : String} (whole : '/' ∉ name.toList) (named : name ≠ "")
    (leads : name ≠ ".") : parts name = [.whole name] := by
  rw [parts_eq, List.splitOn_eq_singleton whole, List.map_singleton, String.ofList_toList]
  simp [named, leads]

theorem Files.find_alone {name : String} (content : Bytes)
    (single : Path.parts name = [.whole name]) (relative : Path.rootText name = "")
    (proper : name ≠ "..") (short : name.utf8ByteSize ≤ Path.maxName) :
    (alone name content).find name = .ok (.file content) := by
  have path : (Path.normal name).nameSize ≤ Path.maxPath := by
    have whole : Text.whole "" ++ Text.whole name = name := by simp
    have wide : Path.maxName ≤ Path.maxPath := by decide
    rw [Path.normal, relative, single, Text.join, whole]
    split
    · decide
    · exact Nat.le_trans short wide
  have there : (alone name content).at? [.whole name] = some (.file content) := by
    simp [at?, alone]
  have here : (alone name content).at? [] = some .directory := rfl
  have home : (alone name content).here = [] := rfl
  rw [find, if_neg (by omega), start, relative, single]
  simpa [walk, proper, here, there, home, Text.nameSize] using short

theorem Files.read_of_find {files : Files} {path : Text} {content : Bytes}
    (found : files.find path = .ok (.file content)) : files.read path = .ok content := by
  rw [read, found]

theorem unifyLineEnds_eq {s : List Char} (plain : '\r' ∉ s) : unifyLineEnds s = s := by
  induction s with
  | nil => rfl
  | cons c rest ih =>
    rw [List.mem_cons, not_or] at plain
    rw [unifyLineEnds, ih plain.2]
    · rintro _ rfl _
      exact plain.1 rfl
    · rintro rfl
      exact plain.1 rfl

end Rehearsal
