/-!
Texts cut at a character, and put together again. Main statement: joining what was split gives the
text back.
-/

namespace Promptuary.Text

/-- The stretches between the occurrences of a character: one more than it occurs. -/
def split (sep : Char) : List Char → List (List Char)
  | [] => [[]]
  | c :: rest =>
    if c = sep then [] :: split sep rest
    else
      match split sep rest with
      | [] => [[c]]
      | part :: others => (c :: part) :: others

/-- Stretches with a character between them. -/
def join (sep : Char) (parts : List (List Char)) : List Char := [sep].intercalate parts

theorem split_ne_nil (sep : Char) (cs : List Char) : split sep cs ≠ [] := by
  cases cs with
  | nil => simp [split]
  | cons c rest =>
    rw [split]
    split
    · simp
    · split <;> simp

theorem join_split (sep : Char) (cs : List Char) : join sep (split sep cs) = cs := by
  induction cs with
  | nil => rfl
  | cons c rest ih =>
    rw [split]
    split
    · next h =>
      cases hl : split sep rest with
      | nil => exact absurd hl (split_ne_nil sep rest)
      | cons part others =>
        rw [hl] at ih
        simp [join, List.intercalate, h] at ih ⊢
        exact ih
    · cases hl : split sep rest with
      | nil => exact absurd hl (split_ne_nil sep rest)
      | cons part others =>
        rw [hl] at ih
        cases others <;> simp_all [join, List.intercalate]

/-- No stretch holds the character. -/
theorem not_mem_of_mem_split {sep : Char} {cs part : List Char} (h : part ∈ split sep cs) :
    sep ∉ part := by
  induction cs generalizing part with
  | nil => simp [split] at h; simp [h]
  | cons c rest ih =>
    rw [split] at h
    split at h
    · rcases List.mem_cons.1 h with rfl | h
      · simp
      · exact ih h
    · next hc =>
      split at h
      · simp only [List.mem_singleton] at h
        subst h
        simpa using fun e => hc e.symm
      · next first others heq =>
        rcases List.mem_cons.1 h with rfl | h
        · have := ih (heq ▸ List.mem_cons_self)
          simpa using ⟨fun e => hc e.symm, this⟩
        · exact ih (heq ▸ List.mem_cons_of_mem _ h)

end Promptuary.Text
