import Mathlib.Data.List.DropRight
import Tunables.Text

namespace Tunables.Text

variable {drop : Symbol → Bool} {text line : Text}

theorem dropWhile_of_head (kept : ∀ c, text.head? = some c → drop c = false) :
    text.dropWhile drop = text := by
  cases text with
  | nil => rfl
  | cons c rest => rw [List.dropWhile_cons_of_neg (by simp [kept c rfl])]

theorem head?_dropWhile {c : Symbol} (first : (text.dropWhile drop).head? = some c) :
    drop c = false := by
  have kept := List.head?_dropWhile_not drop text
  rwa [first] at kept

theorem exists_split (inside : Symbol → Bool) (text : Text) :
    ∃ before behind, text = before ++ behind ∧ (∀ c ∈ before, inside c = true) ∧
      ∀ c, behind.head? = some c → inside c = false :=
  ⟨text.takeWhile inside, text.dropWhile inside, List.takeWhile_append_dropWhile.symm,
    fun _ => List.mem_takeWhile_imp, fun _ => head?_dropWhile⟩

theorem getLast?_dropTrailing {c : Symbol} (last : (dropTrailing drop text).getLast? = some c) :
    drop c = false := by
  rw [dropTrailing, List.getLast?_reverse] at last
  exact head?_dropWhile last

theorem dropTrailing_of_last (kept : ∀ c, text.getLast? = some c → drop c = false) :
    dropTrailing drop text = text := by
  rw [dropTrailing, dropWhile_of_head, List.reverse_reverse]
  intro c first
  rw [List.head?_reverse] at first
  exact kept c first

theorem dropTrailing_append {behind : Text} (dropped : ∀ c ∈ behind, drop c = true) :
    dropTrailing drop (text ++ behind) = dropTrailing drop text := by
  have turned : ∀ c ∈ behind.reverse, drop c = true :=
    fun c member => dropped c (List.mem_reverse.mp member)
  rw [dropTrailing, List.reverse_append, List.dropWhile_append_of_pos turned, dropTrailing]

theorem mem_of_mem_trim {c : Symbol} (member : c ∈ trim drop text) : c ∈ text := by
  have kept := (List.dropWhile_sublist _).mem (List.mem_reverse.mp member)
  exact (List.dropWhile_sublist _).mem (List.mem_reverse.mp kept)

theorem exists_dropTrailing (drop : Symbol → Bool) (text : Text) :
    ∃ behind, text = dropTrailing drop text ++ behind ∧ ∀ c ∈ behind, drop c = true :=
  ⟨text.rtakeWhile drop, List.rdropWhile_append_rtakeWhile.symm,
    fun _ member => List.mem_rtakeWhile_imp member⟩

structure Bare (drop : Symbol → Bool) (text : Text) : Prop where
  head : ∀ c, text.head? = some c → drop c = false
  last : ∀ c, text.getLast? = some c → drop c = false

theorem head?_trim {c : Symbol} (first : (trim drop text).head? = some c) : drop c = false := by
  obtain ⟨behind, split, -⟩ := exists_dropTrailing drop (text.dropWhile drop)
  have whole : (text.dropWhile drop).head? = some c := by
    rw [split, List.head?_append]
    exact Option.or_eq_some_iff.mpr (.inl first)
  exact head?_dropWhile whole

theorem bare_trim (drop : Symbol → Bool) (text : Text) : Bare drop (trim drop text) where
  head := fun _ first => head?_trim first
  last := fun _ last => getLast?_dropTrailing last

theorem trim_eq_iff :
    trim drop text = line ↔
      Bare drop line ∧ ∃ before behind, text = before ++ line ++ behind ∧
        (∀ c ∈ before, drop c = true) ∧ ∀ c ∈ behind, drop c = true := by
  constructor
  · rintro rfl
    obtain ⟨behind, split, dropped⟩ := exists_dropTrailing drop (text.dropWhile drop)
    refine ⟨bare_trim drop text, text.takeWhile drop, behind, ?_, ?_, dropped⟩
    · rw [List.append_assoc, trim, ← split, List.takeWhile_append_dropWhile]
    · exact fun c member => List.mem_takeWhile_imp member
  · rintro ⟨bare, before, behind, rfl, leading, trailing⟩
    rw [trim, List.append_assoc, List.dropWhile_append_of_pos leading]
    cases line with
    | nil =>
      have nothing : behind.dropWhile drop = [] := List.dropWhile_eq_nil_iff.mpr trailing
      rw [List.nil_append, nothing]
      rfl
    | cons c rest =>
      have kept : (c :: rest ++ behind).dropWhile drop = c :: rest ++ behind :=
        dropWhile_of_head fun d first => bare.head d first
      rw [kept, dropTrailing_append trailing, dropTrailing_of_last bare.last]

end Tunables.Text
