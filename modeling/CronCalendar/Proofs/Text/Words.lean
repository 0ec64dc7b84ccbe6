import CronCalendar.Proofs.Text.Trimming

/-!
# Words of a text

A word is not empty and has no blanks, and the words of a text are such (`isWord_of_mem_words`). The first
word of a text reaches up to the first blank (`words_append`), so words written one after the other with
single spaces between them are the words of what was written (`words_intercalate`).
-/

namespace CronCalendar.Text
set_option autoImplicit false

/-- A run of characters that can be a word of a text. -/
structure IsWord (w : List Char) : Prop where
  nonempty : w ≠ []
  notBlank : ∀ c ∈ w, isBlank c = false

theorem isWord_singleton {c : Char} (notBlank : ¬ isBlank c = true) : IsWord [c] :=
  ⟨List.cons_ne_nil c [], by simpa using notBlank⟩

theorem IsWord.cons {c : Char} {w : List Char} (notBlank : ¬ isBlank c = true) (word : IsWord w) :
    IsWord (c :: w) :=
  ⟨List.cons_ne_nil c w, List.forall_mem_cons.2 ⟨eq_false_of_ne_true notBlank, word.notBlank⟩⟩

theorem trimmed_of_isWord {w : String} (word : IsWord w.toList) : trimmed w = w := by
  rw [trimmed, trim_of_no_blanks word.notBlank, String.ofList_toList]

theorem isWord_of_mem_words {s w : List Char} (mem : w ∈ words s) : IsWord w := by
  induction s using words.induct generalizing w with
  | case1 => cases mem
  | case2 c blank => simp [words, blank] at mem
  | case3 c notBlank =>
    rw [words, if_neg notBlank] at mem
    obtain rfl := List.mem_singleton.1 mem
    exact isWord_singleton notBlank
  | case4 c d rest blank ih =>
    rw [words, if_pos blank] at mem
    exact ih mem
  | case5 c d rest notBlank blank ih =>
    rw [words, if_neg notBlank, if_pos blank] at mem
    rcases List.mem_cons.1 mem with rfl | mem
    · exact isWord_singleton notBlank
    · exact ih mem
  | case6 c d rest notBlank notBlank' none ih =>
    rw [words, if_neg notBlank, if_neg notBlank', none] at mem
    obtain rfl := List.mem_singleton.1 mem
    exact isWord_singleton notBlank
  | case7 c d rest notBlank notBlank' first others eq ih =>
    rw [words, if_neg notBlank, if_neg notBlank', eq] at mem
    rw [eq] at ih
    rcases List.mem_cons.1 mem with rfl | mem
    · exact (ih List.mem_cons_self).cons notBlank
    · exact ih (List.mem_cons_of_mem _ mem)

theorem words_cons_of_blank {c : Char} (blank : isBlank c = true) (s : List Char) :
    words (c :: s) = words s := by
  cases s with
  | nil => simp [words, blank]
  | cons d rest => rw [words, if_pos blank]

/-- A word in front of a blank, or at the end, is the first word. -/
theorem words_append {w s : List Char} (word : IsWord w) (ends : ∀ c ∈ s.head?, isBlank c = true) :
    words (w ++ s) = w :: words s := by
  obtain ⟨nonempty, notBlank⟩ := word
  induction w with
  | nil => exact absurd rfl nonempty
  | cons c w ih =>
    obtain ⟨first, notBlank⟩ := List.forall_mem_cons.1 notBlank
    cases w with
    | nil =>
      cases s with
      | nil => simp [words, first]
      | cons d s => simp [words, first, ends d rfl]
    | cons d w =>
      have second := notBlank d List.mem_cons_self
      have later := ih (List.cons_ne_nil d w) notBlank
      rw [List.cons_append] at later
      rw [List.cons_append, List.cons_append, words, if_neg (by simp [first]), if_neg (by simp [second]),
        later]

theorem words_intercalate {ws : List (List Char)} (all : ∀ w ∈ ws, IsWord w) :
    words ([' '].intercalate ws) = ws := by
  induction ws with
  | nil => rfl
  | cons w rest ih =>
    obtain ⟨word, all⟩ := List.forall_mem_cons.1 all
    cases rest with
    | nil =>
      have alone := words_append word (s := []) (by simp)
      rw [List.append_nil] at alone
      rw [List.intercalate_singleton, alone, words]
    | cons v rest =>
      have space : isBlank ' ' = true := by decide
      rw [List.intercalate_cons_cons, List.append_assoc, List.singleton_append,
        words_append word (by simp [space]), words_cons_of_blank space, ih all]

end CronCalendar.Text
