import Mathlib.Data.List.Basic

/-!
# Append-only logs of lines

A log is a sequence of bytes, read as lines. Every line but the last ends with a newline, and a
last line without one is a write that was interrupted. An append writes one encoded entry and a
newline, or fails after some prefix of them.
-/

namespace LineLog

open List

variable {α β : Type*}

/-- Entries as lines. A line is never empty and holds no newline. -/
structure Codec (α β : Type*) where
  newline : β
  encode : α → List β
  decode : List β → Option α
  decode_encode : ∀ a, decode (encode a) = some a
  encode_ne_nil : ∀ a, encode a ≠ []
  newline_notMem : ∀ a, newline ∉ encode a

variable [DecidableEq β]

/-- The complete lines, and what follows the last newline. -/
def split (newline : β) : List β → List (List β) × List β
  | [] => ([], [])
  | b :: rest =>
    match split newline rest with
    | (lines, tail) =>
      if b = newline then ([] :: lines, tail)
      else
        match lines with
        | [] => ([], b :: tail)
        | line :: lines => ((b :: line) :: lines, tail)

section

variable {newline : β}

theorem split_cons_newline (rest : List β) :
    split newline (newline :: rest) = ([] :: (split newline rest).1, (split newline rest).2) :=
  if_pos rfl

theorem split_cons_of_ne {b : β} (h : b ≠ newline) (rest : List β) : split newline (b :: rest) =
      match (split newline rest).1 with
      | [] => ([], b :: (split newline rest).2)
      | line :: lines => ((b :: line) :: lines, (split newline rest).2) := if_neg h

theorem split_of_notMem {l : List β} (h : newline ∉ l) : split newline l = ([], l) := by
  induction l with
  | nil => rfl
  | cons b rest ih =>
    rw [mem_cons, not_or] at h
    rw [split_cons_of_ne (Ne.symm h.1), ih h.2]

theorem split_line {l : List β} (h : newline ∉ l) : split newline (l ++ [newline]) = ([l], []) := by
  induction l with
  | nil => exact split_cons_newline []
  | cons b rest ih =>
    rw [mem_cons, not_or] at h
    rw [cons_append, split_cons_of_ne (Ne.symm h.1), ih h.2]

/-- After a log whose lines are all complete, what follows is read for itself. -/
theorem split_append {f : List β} (h : (split newline f).2 = []) (g : List β) :
    split newline (f ++ g) = ((split newline f).1 ++ (split newline g).1, (split newline g).2) := by
  induction f with
  | nil => rfl
  | cons b rest ih =>
    rw [cons_append]
    by_cases hb : b = newline
    · subst hb
      rw [split_cons_newline] at h ⊢
      rw [split_cons_newline, ih h, cons_append]
    rw [split_cons_of_ne hb] at h ⊢
    rw [split_cons_of_ne hb]
    cases hl : (split newline rest).1 with
    | nil =>
      rw [hl] at h
      cases h
    | cons line lines =>
      rw [hl] at h
      have hr : (split newline rest).2 = [] := h
      rw [ih hr, hl, cons_append]
      rfl

theorem exists_complete (newline : β) (f : List β) :
    ∃ complete, f = complete ++ (split newline f).2 ∧
      split newline complete = ((split newline f).1, []) := by
  induction f with
  | nil => exact ⟨[], rfl, rfl⟩
  | cons b rest ih =>
    obtain ⟨complete, hr, hl⟩ := ih
    by_cases hb : b = newline
    · subst hb
      refine ⟨b :: complete, ?_, ?_⟩
      · rw [split_cons_newline, cons_append, ← hr]
      · rw [split_cons_newline, split_cons_newline, hl]
    · rw [split_cons_of_ne hb]
      cases hn : (split newline rest).1 with
      | nil =>
        -- no line is complete, so everything is tail
        rw [hn] at hl
        refine ⟨[], ?_, rfl⟩
        have hnil : complete = [] := by
          cases complete with
          | nil => rfl
          | cons c cs =>
            by_cases hc : c = newline
            · rw [hc, split_cons_newline] at hl
              cases hl
            rw [split_cons_of_ne hc] at hl
            cases hs : (split newline cs).1 with
            | nil | cons =>
              rw [hs] at hl
              cases hl
        rw [hnil, nil_append] at hr
        exact congrArg (b :: ·) hr
      | cons line lines =>
        refine ⟨b :: complete, ?_, ?_⟩
        · exact congrArg (b :: ·) hr
        · rw [split_cons_of_ne hb, hl, hn]

end

variable (codec : Codec α β)

variable (f : List β)

/-- The tail of an interrupted append. -/
def tail : List β := (split codec.newline f).2

/-- The last line is complete. -/
def Whole : Prop := tail codec f = []

instance (f : List β) : Decidable (Whole codec f) := inferInstanceAs (Decidable (_ = _))

/-- The entries of the complete lines; empty lines are skipped, and one that does not decode
spoils the log. -/
def entries : Option (List α) := ((split codec.newline f).1.filter (· ≠ [])).mapM codec.decode

/-- An entry as it is written. -/
def line (a : α) : List β := codec.encode a ++ [codec.newline]

/-- Append an entry: `none` if all of it is written, `some n` if the write fails after `n`
bytes. -/
def append (a : α) : Option ℕ → List β
  | none => f ++ line codec a
  | some n => f ++ (line codec a).take n

/-- Drop the tail, unless it is the whole log. -/
def truncate : List β :=
  if tail codec f ≠ [] ∧ 0 < f.length - (tail codec f).length then
    f.take (f.length - (tail codec f).length)
  else f

variable {codec}

omit [DecidableEq β] in
theorem filter_encode (a : α) : [codec.encode a].filter (· ≠ []) = [codec.encode a] :=
  filter_eq_self.mpr fun l hl => by
    rw [mem_singleton.mp hl]
    exact decide_eq_true (codec.encode_ne_nil a)

theorem entries_append_line {f : List β} {es : List α} (hf : Whole codec f)
    (he : entries codec f = some es) (a : α) :
    entries codec (f ++ line codec a) = some (es ++ [a]) := by
  unfold entries at he ⊢
  unfold line
  rw [split_append hf, split_line (codec.newline_notMem a), filter_append, mapM_append,
    he, filter_encode, mapM_cons, mapM_nil, codec.decode_encode]
  rfl

theorem entries_append_partial {f l : List β} (hf : Whole codec f) (hl : codec.newline ∉ l) :
    entries codec (f ++ l) = entries codec f := by
  unfold entries
  rw [split_append hf, split_of_notMem hl, append_nil]

theorem entries_append_cut {f : List β} (hf : Whole codec f) (a : α) {n : ℕ}
    (hn : n < (line codec a).length) :
    entries codec (append codec f a (some n)) = entries codec f := by
  have ht : (line codec a).take n = (codec.encode a).take n := by
    unfold line at hn ⊢
    rw [length_append, length_singleton] at hn
    exact take_append_of_le_length (by omega)
  show entries codec (f ++ (line codec a).take n) = _
  rw [ht]
  exact entries_append_partial hf fun h => codec.newline_notMem a (mem_of_mem_take h)

theorem entries_append {f : List β} {es : List α} (hf : Whole codec f)
    (he : entries codec f = some es) (a : α) (outcome : Option ℕ) :
    (entries codec (append codec f a outcome) = some (es ++ [a])) ∨
      (outcome ≠ none ∧ entries codec (append codec f a outcome) = some es) := by
  cases outcome with
  | none => exact .inl (entries_append_line hf he a)
  | some n =>
    by_cases hn : (line codec a).length ≤ n
    · refine .inl ?_
      show entries codec (f ++ (line codec a).take n) = _
      rw [take_of_length_le hn]
      exact entries_append_line hf he a
    · exact .inr ⟨nofun, (entries_append_cut hf a (Nat.lt_of_not_le hn)).trans he⟩

theorem entries_truncate : entries codec (truncate codec f) = entries codec f := by
  unfold truncate
  split_ifs
  · obtain ⟨complete, hf, hs⟩ := exists_complete codec.newline f
    have ht : f.take (f.length - (tail codec f).length) = complete := by
      have hl : f.length - (tail codec f).length = complete.length := by
        have := congrArg length hf
        rw [length_append] at this
        exact (Nat.eq_sub_of_add_eq this.symm).symm
      rw [hl]
      conv_lhs => rw [hf]
      exact take_left
    rw [ht]
    unfold entries
    rw [hs]
  · rfl

end LineLog
