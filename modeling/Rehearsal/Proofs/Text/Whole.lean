import Rehearsal.Json.Writer
import Rehearsal.Schema

namespace Rehearsal

namespace Text

theorem ofPoints_torn {points : List Nat} (isTorn : points.all (fun n => n.isValidChar) = false) :
    ofPoints points = torn points isTorn := by
  rw [ofPoints, dif_neg (by rw [isTorn]; exact Bool.false_ne_true)]

theorem ofPoints_points (t : Text) : ofPoints t.points = t := by
  cases t with
  | torn points isTorn => exact ofPoints_torn isTorn
  | whole s =>
    have valid : (s.toList.map Char.toNat).all (fun n => n.isValidChar) = true := by
      simp only [List.all_map, List.all_eq_true, Function.comp_apply, decide_eq_true_eq]
      exact fun c _ => c.valid
    have same : (s.toList.map Char.toNat).map Char.ofNat = s.toList := by
      simp [Function.comp_def]
    rw [points, ofPoints, dif_pos valid, same, String.ofList_toList]

theorem isWhole_iff {t : Text} : t.isWhole = true ↔ ∃ s : String, t = s := by
  cases t <;> simp [isWhole]

theorem mended_whole (mark : Char) (s : String) : mended mark s = s := rfl

theorem tear?_eq_none {t : Text} : t.tear? = none ↔ t.isWhole = true := by
  cases t with
  | whole s => simp [tear?, tearBehind?, isWhole]
  | torn points isTorn =>
    simp only [isWhole, Bool.false_eq_true, iff_false, tear?, tearBehind?, Bool.or_false]
    cases left : points.dropWhile fun n => n.isValidChar with
    | nil =>
      have broken := List.any_dropWhile (l := points) (p := fun n => decide n.isValidChar)
      rw [left, isTorn] at broken
      cases broken
    | cons n rest =>
      have invalid := List.head?_dropWhile_not (fun n => decide n.isValidChar) points
      simp only [left, List.head?_cons] at invalid
      rw [List.takeWhile_cons, invalid]
      simp

end Text

end Rehearsal
