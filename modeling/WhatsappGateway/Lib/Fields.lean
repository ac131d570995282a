import Mathlib.Data.List.Induction
import Mathlib.Data.List.TakeWhile

/-!
Texts that are joined by a separator. A part without the separator can be read off either
end of the text, so that fields which are appended to a text of any form determine it.
-/

namespace WhatsappGateway.Lib

variable {α : Type*} {sep : α}

/-- What precedes the first separator is determined. -/
theorem split_first_inj {a b x y : List α} (ha : sep ∉ a) (hb : sep ∉ b)
    (h : a ++ sep :: x = b ++ sep :: y) : a = b ∧ x = y := by
  induction a generalizing b with
  | nil =>
    cases b with
    | nil => exact ⟨rfl, (List.cons.inj h).2⟩
    | cons c b => exact absurd (List.mem_cons.mpr (.inl (List.cons.inj h).1)) hb
  | cons c a ih =>
    cases b with
    | nil => exact absurd (List.mem_cons.mpr (.inl (List.cons.inj h).1.symm)) ha
    | cons d b =>
      obtain ⟨rfl, hrest⟩ := List.cons.inj h
      have htail := ih (fun hmem => ha (List.mem_cons_of_mem _ hmem))
        (fun hmem => hb (List.mem_cons_of_mem _ hmem)) hrest
      exact ⟨by rw [htail.1], htail.2⟩

/-- So is what follows the last one. -/
theorem split_last_inj {a b x y : List α} (ha : sep ∉ a) (hb : sep ∉ b)
    (h : x ++ sep :: a = y ++ sep :: b) : x = y ∧ a = b := by
  have hreverse : a.reverse ++ sep :: x.reverse = b.reverse ++ sep :: y.reverse := by
    simpa using congrArg List.reverse h
  obtain ⟨hlast, hfront⟩ := split_first_inj (by simpa using ha) (by simpa using hb) hreverse
  exact ⟨List.reverse_inj.mp hfront, List.reverse_inj.mp hlast⟩

section Cut

variable [DecidableEq α] {a x : List α}

theorem ne_sep_of_mem (ha : sep ∉ a) : ∀ c ∈ a, decide (c ≠ sep) = true := by
  intro c hc
  apply decide_eq_true
  rintro rfl
  exact ha hc

theorem takeWhile_field (ha : sep ∉ a) : a.takeWhile (· ≠ sep) = a :=
  List.takeWhile_eq_self_iff.mpr (ne_sep_of_mem ha)

theorem dropWhile_field (ha : sep ∉ a) : a.dropWhile (· ≠ sep) = [] :=
  List.dropWhile_eq_nil_iff.mpr (ne_sep_of_mem ha)

/-- A text is cut at its first separator. -/
theorem takeWhile_append_sep (ha : sep ∉ a) : (a ++ sep :: x).takeWhile (· ≠ sep) = a := by
  rw [List.takeWhile_append_of_pos (ne_sep_of_mem ha), List.takeWhile_cons_of_neg (by simp),
    List.append_nil]

theorem dropWhile_append_sep (ha : sep ∉ a) : (a ++ sep :: x).dropWhile (· ≠ sep) = sep :: x := by
  rw [List.dropWhile_append_of_pos (ne_sep_of_mem ha), List.dropWhile_cons_of_neg (by simp)]

end Cut

/-- Joined texts are split where each of them is. -/
theorem splitOn_intercalate_flatMap [DecidableEq α] {parts : List (List α)} (hne : parts ≠ []) :
    ([sep].intercalate parts).splitOn sep = parts.flatMap (List.splitOn sep) := by
  induction parts with
  | nil => exact absurd rfl hne
  | cons part parts ih =>
    cases parts with
    | nil => simp
    | cons next parts =>
      rw [List.intercalate_cons_cons, List.append_assoc, List.singleton_append,
        List.splitOn_append_cons_self, ih (List.cons_ne_nil next parts)]
      exact List.flatMap_cons.symm

/-- A part of a text that is split has no separator. -/
theorem sep_not_mem_splitOn [DecidableEq α] (text : List α) :
    ∀ part ∈ text.splitOn sep, sep ∉ part := by
  induction text with
  | nil => simp
  | cons c text ih =>
    rw [List.splitOn_cons_eq_if_modifyHead]
    split
    · simpa using ih
    · next hc =>
      obtain ⟨first, more, hsplit⟩ := List.exists_cons_of_ne_nil (List.splitOn_ne_nil sep text)
      rw [hsplit] at ih ⊢
      intro part hpart
      rw [List.modifyHead_cons] at hpart
      rcases List.mem_cons.mp hpart with rfl | hmore
      · have hfirst := ih first List.mem_cons_self
        simp only [beq_iff_eq] at hc
        simp [hfirst, Ne.symm hc]
      · exact ih part (List.mem_cons_of_mem _ hmore)

theorem splitOn_eq_pair [DecidableEq α] {text a b : List α} :
    text.splitOn sep = [a, b] ↔ text = a ++ sep :: b ∧ sep ∉ a ∧ sep ∉ b := by
  constructor
  · intro hsplit
    have hparts : ∀ part ∈ text.splitOn sep, sep ∉ part := sep_not_mem_splitOn text
    rw [hsplit] at hparts
    have hjoin : [sep].intercalate (text.splitOn sep) = text := List.intercalate_splitOn sep
    rw [hsplit] at hjoin
    refine ⟨?_, hparts a (by simp), hparts b (by simp)⟩
    rw [← hjoin]
    simp
  · rintro ⟨rfl, ha, hb⟩
    rw [List.splitOn_append_cons_self, List.splitOn_eq_singleton ha, List.splitOn_eq_singleton hb]
    rfl

/-- The fields, each after a separator. -/
def fields (sep : α) (parts : List (List α)) : List α :=
  parts.flatMap (sep :: ·)

theorem fields_concat (parts : List (List α)) (part : List α) :
    fields sep (parts ++ [part]) = fields sep parts ++ sep :: part := by
  simp [fields]

/-- A text and a number of fields without the separator are determined by the text that
they make together. -/
theorem fields_inj {x y : List α} {ps qs : List (List α)} (hlength : ps.length = qs.length)
    (hps : ∀ p ∈ ps, sep ∉ p) (hqs : ∀ q ∈ qs, sep ∉ q)
    (h : x ++ fields sep ps = y ++ fields sep qs) : x = y ∧ ps = qs := by
  induction ps using List.reverseRecOn generalizing qs with
  | nil =>
    obtain rfl := List.length_eq_zero_iff.mp hlength.symm
    exact ⟨by simpa [fields] using h, rfl⟩
  | append_singleton ps p ih =>
    obtain rfl | ⟨qs, q, rfl⟩ := List.eq_nil_or_concat qs
    · simp at hlength
    · rw [List.concat_eq_append] at h hqs
      rw [fields_concat, fields_concat, ← List.append_assoc, ← List.append_assoc] at h
      obtain ⟨hfront, rfl⟩ := split_last_inj (hps p (by simp)) (hqs q (by simp)) h
      obtain ⟨hx, rfl⟩ := ih (by simpa using hlength)
        (fun p hp => hps p (List.mem_append_left _ hp))
        (fun q hq => hqs q (List.mem_append_left _ hq)) hfront
      exact ⟨hx, List.concat_eq_append.symm⟩

end WhatsappGateway.Lib
