import Multiples.Text.Basic

/-!
# Entities

Five characters stand for markup and are written as entities where they are data.

* `Markup.escape` writes a text with its markup characters as entities;
* `Markup.unescape` reads it in one pass from the left; an ampersand that opens none of the five entities
  stands for itself, and what an entity stands for is not read again;
* `Markup.unescape_escape` says that reading undoes writing.
-/

namespace Multiples

namespace Markup

/-- How a character is written as data. -/
def escapedChar : Char → Text
  | '&' => ['&', 'a', 'm', 'p', ';']
  | '<' => ['&', 'l', 't', ';']
  | '>' => ['&', 'g', 't', ';']
  | '"' => ['&', 'q', 'u', 'o', 't', ';']
  | '\'' => ['&', 'a', 'p', 'o', 's', ';']
  | c => [c]

/-- A text as data between markup. -/
def escape (s : Text) : Text := s.flatMap escapedChar

/-- The text that data between markup stands for. -/
def unescape : Text → Text
  | '&' :: 'l' :: 't' :: ';' :: s => '<' :: unescape s
  | '&' :: 'g' :: 't' :: ';' :: s => '>' :: unescape s
  | '&' :: 'q' :: 'u' :: 'o' :: 't' :: ';' :: s => '"' :: unescape s
  | '&' :: 'a' :: 'p' :: 'o' :: 's' :: ';' :: s => '\'' :: unescape s
  | '&' :: 'a' :: 'm' :: 'p' :: ';' :: s => '&' :: unescape s
  | c :: s => c :: unescape s
  | [] => []

/-! ## Small lemmas -/

theorem escape_cons (c : Char) (s : Text) : escape (c :: s) = escapedChar c ++ escape s := rfl

theorem escape_append (s t : Text) : escape (s ++ t) = escape s ++ escape t := List.flatMap_append

theorem unescape_cons_of_ne {c : Char} (h : c ≠ '&') (s : Text) : unescape (c :: s) = c :: unescape s := by
  rw [unescape] <;> intros <;> simp_all

/-- A text without ampersands is read as itself, whatever follows it. -/
theorem unescape_append_of_not_mem {front : Text} (h : '&' ∉ front) (s : Text) :
    unescape (front ++ s) = front ++ unescape s := by
  induction front with
  | nil => rfl
  | cons c front ih =>
    rw [List.mem_cons, not_or] at h
    rw [List.cons_append, unescape_cons_of_ne (Ne.symm h.1), ih h.2, List.cons_append]

theorem unescape_eq_self {s : Text} (h : '&' ∉ s) : unescape s = s := by
  simpa [unescape] using unescape_append_of_not_mem h []

/-- A character written as data is read back, whatever follows it. -/
theorem unescape_escapedChar_append (c : Char) (s : Text) : unescape (escapedChar c ++ s) = c :: unescape s := by
  unfold escapedChar
  split
  · rfl
  · rfl
  · rfl
  · rfl
  · rfl
  · rename_i h _ _ _ _
    exact unescape_cons_of_ne (fun e => h e) s

theorem unescape_escape_append (s t : Text) : unescape (escape s ++ t) = s ++ unescape t := by
  induction s with
  | nil => rfl
  | cons c s ih => rw [escape_cons, List.append_assoc, unescape_escapedChar_append, ih, List.cons_append]

/-- **Reading undoes writing.** -/
theorem unescape_escape (s : Text) : unescape (escape s) = s := by
  simpa [unescape] using unescape_escape_append s []

end Markup

end Multiples
