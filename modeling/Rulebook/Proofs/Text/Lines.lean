import Mathlib.Data.List.Basic
import Rulebook.Text.Basic

namespace Rulebook.Text

/-- The text ends with a line feed, so that its last line is complete. -/
def Ended (s : String) : Prop :=
  s.toList.getLast? = some '\n'

instance (s : String) : Decidable (Ended s) :=
  inferInstanceAs (Decidable (s.toList.getLast? = some '\n'))

theorem ended_iff {s : String} : Ended s ↔ ∃ body : List Char, s.toList = body ++ ['\n'] := by
  rw [Ended, List.getLast?_eq_some_iff]

theorem pieces_ne_nil (cs : List Char) : pieces cs ≠ [] := by
  cases cs with
  | nil => exact List.cons_ne_nil _ _
  | cons c cs =>
      rw [pieces]
      split
      · exact List.cons_ne_nil _ _
      · split <;> exact List.cons_ne_nil _ _

theorem pieces_cons_of_ne {c : Char} (hc : c ≠ '\n') {cs p : List Char} {ps : List (List Char)}
    (h : pieces cs = p :: ps) : pieces (c :: cs) = (c :: p) :: ps := by
  rw [pieces, if_neg hc, h]

theorem pieces_append (before after : List Char) :
    pieces (before ++ '\n' :: after) = pieces before ++ pieces after := by
  induction before with
  | nil => rfl
  | cons c before ih =>
      rw [List.cons_append]
      by_cases hc : c = '\n'
      · subst hc
        have hcut (cs : List Char) : pieces ('\n' :: cs) = [] :: pieces cs := rfl
        rw [hcut, hcut, ih, List.cons_append]
      · cases hpieces : pieces before with
        | nil => exact absurd hpieces (pieces_ne_nil before)
        | cons p ps =>
            have hwhole : pieces (before ++ '\n' :: after) = p :: (ps ++ pieces after) := by
              rw [ih, hpieces, List.cons_append]
            rw [pieces_cons_of_ne hc hwhole, pieces_cons_of_ne hc hpieces, List.cons_append]

theorem pieces_of_notMem {cs : List Char} (h : '\n' ∉ cs) : pieces cs = [cs] := by
  induction cs with
  | nil => rfl
  | cons c cs ih =>
      rw [List.mem_cons, not_or] at h
      exact pieces_cons_of_ne (Ne.symm h.1) (ih h.2)

theorem linesOf_append (front : List (List Char)) {rest : List (List Char)} (hrest : rest ≠ []) :
    linesOf (front ++ rest) = front.map dropReturn ++ linesOf rest := by
  induction front with
  | nil => rfl
  | cons p front ih =>
      have hne : front ++ rest ≠ [] := List.append_ne_nil_of_right_ne_nil _ hrest
      rw [List.cons_append, List.map_cons, List.cons_append, ← ih]
      cases hrest : front ++ rest with
      | nil => exact absurd hrest hne
      | cons q qs => rfl

theorem linesOf_pieces_append (body after : List Char) :
    linesOf (pieces (body ++ '\n' :: after)) =
      (pieces body).map dropReturn ++ linesOf (pieces after) := by
  rw [pieces_append, linesOf_append _ (pieces_ne_nil after)]

/-- Complete lines and what follows them are read apart. -/
theorem lines_append {s : String} (hs : Ended s) (t : String) :
    lines (s ++ t) = lines s ++ lines t := by
  obtain ⟨body, hbody⟩ := ended_iff.mp hs
  have hends : linesOf (pieces s.toList) = (pieces body).map dropReturn := by
    rw [hbody, linesOf_pieces_append]
    exact List.append_nil _
  have hjoined : (s ++ t).toList = body ++ '\n' :: t.toList := by
    rw [String.toList_append, hbody, List.append_assoc]
    rfl
  rw [lines, hjoined, linesOf_pieces_append, List.map_append, ← hends]
  rfl

theorem lines_complete {s : String} (hfeed : '\n' ∉ s.toList)
    (hreturn : s.toList.getLast? ≠ some '\r') : lines (s ++ "\n") = [s] := by
  have hkept : dropReturn s.toList = s.toList := by
    rw [dropReturn]
    split
    · rename_i hlast
      exact absurd hlast hreturn
    · rfl
  have hline : (s ++ "\n").toList = s.toList ++ '\n' :: [] := by
    rw [String.toList_append]
    rfl
  rw [lines, hline, linesOf_pieces_append, pieces_of_notMem hfeed, List.map_singleton, hkept]
  simp [pieces, linesOf]

theorem lines_of_notMem {s : String} (hne : s ≠ "") (hfeed : '\n' ∉ s.toList) : lines s = [s] := by
  have hsome : s.toList.isEmpty = false := by
    rw [List.isEmpty_eq_false_iff]
    exact fun hnil => hne (String.toList_eq_nil_iff.mp hnil)
  rw [lines, pieces_of_notMem hfeed, linesOf, hsome]
  simp

/-- There is no text behind the last line feed. -/
def Complete (s : String) : Prop :=
  s = "" ∨ Ended s

theorem lines_append_of_complete {s : String} (hs : Complete s) (t : String) :
    lines (s ++ t) = lines s ++ lines t := by
  rcases hs with rfl | hs
  · rw [String.empty_append]
    rfl
  · exact lines_append hs t

theorem Ended.append (s : String) {t : String} (ht : Ended t) : Ended (s ++ t) := by
  obtain ⟨body, hbody⟩ := ended_iff.mp ht
  refine ended_iff.mpr ⟨s.toList ++ body, ?_⟩
  rw [String.toList_append, hbody, List.append_assoc]

theorem ended_line (s : String) : Ended (s ++ "\n") :=
  ended_iff.mpr ⟨s.toList, String.toList_append⟩

end Rulebook.Text
