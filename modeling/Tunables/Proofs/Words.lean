import Tunables.Proofs.Trimming
import Tunables.Text.Blank
import Tunables.Text.Lowercase

namespace Tunables

namespace Lowercase

/-- A symbol that only ASCII characters have in their lower case. The Kelvin sign has `k`, and NUL
stands in for what is no character. -/
def isPlain (symbol : Symbol) : Bool := 0 < symbol.toNat && symbol.toNat < 0x80 && symbol ≠ 'k'

def fold : Symbol → Symbol
  | .char c => c.toLower
  | .stray n => .stray n

variable {c : Char} {symbol : Symbol} {word target : Text}

theorem isPlain_of_wide (wide : 0x80 ≤ symbol.toNat) : isPlain symbol = false := by
  have high : decide (symbol.toNat < 0x80) = false := decide_eq_false (Nat.not_lt.mpr wide)
  rw [isPlain, high, Bool.and_false, Bool.false_and]

theorem toLower_of_wide (wide : 0x80 ≤ c.toNat) : c.toLower = c := by
  unfold Char.toLower
  rw [dif_neg]
  rintro ⟨-, low⟩
  have letter : c.toNat ≤ 0x5A := low
  omega

theorem fold_of_wide (wide : 0x80 ≤ symbol.toNat) : fold symbol = symbol := by
  cases symbol with
  | stray n => rfl
  | char c => exact congrArg Symbol.char (toLower_of_wide wide)

theorem isPlain_ofNat {n : Nat} (wide : 0x80 ≤ n) : isPlain (Char.ofNat n) = false := by
  unfold Char.ofNat
  by_cases valid : n.isValidChar
  · rw [dif_pos valid]
    exact isPlain_of_wide wide
  · rw [dif_neg valid]
    rfl

theorem lowerRuns_shift : ∀ run ∈ LetterCase.lowerRuns,
    run.last < 0x80 ∨ 0x80 ≤ run.first + run.shift ∨
      run.first = run.last ∧ run.last + run.shift = 'k'.toNat := by
  decide +kernel

theorem exists_ofChar_not_plain (wide : 0x80 ≤ c.toNat) : ∃ d ∈ ofChar c, isPlain d = false := by
  unfold ofChar
  rw [if_neg (Nat.not_lt.mpr wide)]
  split
  · exact ⟨'\u0307', by simp, by decide⟩
  · cases found : LetterCase.lowerRuns.find? (·.covers c.toNat) with
    | none => exact ⟨c, List.mem_singleton_self c, isPlain_of_wide wide⟩
    | some run =>
      refine ⟨_, List.mem_singleton_self _, ?_⟩
      have covered := List.find?_some found
      simp only [LetterCase.Run.covers, Bool.and_eq_true, decide_eq_true_eq] at covered
      obtain ⟨⟨above, below⟩, -⟩ := covered
      -- The character is not below `run.first`, so it is moved at least as far up as that one is.
      rcases lowerRuns_shift run (List.mem_of_find?_eq_some found) with
        narrow | high | ⟨single, kelvin⟩
      · omega
      · apply isPlain_ofNat
        omega
      · have letter : (c.toNat + run.shift).toNat = 'k'.toNat := by omega
        rw [letter]
        decide

theorem exists_ofSymbol_not_plain (wide : 0x80 ≤ symbol.toNat) :
    ∃ d ∈ ofSymbol symbol, isPlain d = false := by
  cases symbol with
  | stray n => exact ⟨_, List.mem_singleton_self _, isPlain_of_wide wide⟩
  | char c =>
    obtain ⟨d, inside, odd⟩ := exists_ofChar_not_plain wide
    exact ⟨d, List.mem_map_of_mem inside, odd⟩

theorem ofSymbol_of_ascii (ascii : symbol.toNat < 0x80) : ofSymbol symbol = [fold symbol] := by
  cases symbol with
  | stray n =>
    have wide : 0xDC80 + n.val < 0x80 := ascii
    omega
  | char c => exact congrArg Text.ofChars (if_pos ascii)

theorem after_of_ascii (ascii : ∀ symbol ∈ word, symbol.toNat < 0x80) (before : Text) :
    after before word = word.map fold := by
  induction word generalizing before with
  | nil => rfl
  | cons symbol rest ih =>
    rw [List.forall_mem_cons] at ascii
    have latin : symbol ≠ 'Σ' := by
      rintro rfl
      exact absurd ascii.1 (by decide)
    rw [after, ih ascii.2, if_neg latin, ofSymbol_of_ascii ascii.1, List.map_cons,
      List.singleton_append]

theorem exists_after_not_plain (member : symbol ∈ word) (wide : 0x80 ≤ symbol.toNat)
    (before : Text) : ∃ d ∈ after before word, isPlain d = false := by
  induction word generalizing before with
  | nil => cases member
  | cons first rest ih =>
    rw [after]
    rcases List.mem_cons.mp member with rfl | later
    · obtain ⟨d, inside, odd⟩ : ∃ d ∈ (if symbol = 'Σ' then
          [if meetsCased before && !meetsCased rest then .char 'ς' else .char 'σ']
          else ofSymbol symbol), isPlain d = false := by
        split
        · exact ⟨_, List.mem_singleton_self _, by split <;> decide⟩
        · exact exists_ofSymbol_not_plain wide
      exact ⟨d, List.mem_append_left _ inside, odd⟩
    · obtain ⟨d, inside, odd⟩ := ih later (first :: before)
      exact ⟨d, List.mem_append_right _ inside, odd⟩

theorem ofText_eq_iff (plain : ∀ symbol ∈ target, isPlain symbol = true) :
    ofText word = target ↔ word.map fold = target := by
  by_cases ascii : ∀ symbol ∈ word, symbol.toNat < 0x80
  · rw [ofText, after_of_ascii ascii]
  · push Not at ascii
    obtain ⟨symbol, member, wide⟩ := ascii
    apply iff_of_false
    · rintro rfl
      obtain ⟨d, inside, odd⟩ := exists_after_not_plain member wide []
      rw [plain d inside] at odd
      cases odd
    · rintro rfl
      have kept := plain symbol (List.mem_map.mpr ⟨symbol, member, fold_of_wide wide⟩)
      rw [isPlain_of_wide wide] at kept
      cases kept

end Lowercase

namespace Blank

structure IsWord (text : Text) : Prop where
  nonempty : text ≠ []
  plain : ∀ c ∈ text, isBlank c = false

structure Filled (text : Text) : Prop where
  nonempty : text ≠ []
  bare : Text.Bare isBlank text

def Holds (raw line : Text) : Prop :=
  Text.Bare isBlank line ∧ ∃ before behind, raw = before ++ line ++ behind ∧
    (∀ c ∈ before, isBlank c = true) ∧ ∀ c ∈ behind, isBlank c = true

inductive Leads : Text → Text → Text → Prop
  | alone {word : Text} (isWord : IsWord word) : Leads word word []
  | followed {word gap rest : Text} (isWord : IsWord word) (wide : gap ≠ [])
    (blank : ∀ c ∈ gap, isBlank c = true) (filled : Filled rest) :
    Leads (word ++ gap ++ rest) word rest

variable {raw line word rest : Text}

theorem trim_eq_iff_holds : trim raw = line ↔ Holds raw line := Text.trim_eq_iff

theorem Leads.filled_rest (leads : Leads line word rest) : rest = [] ∨ Filled rest := by
  cases leads with
  | alone => exact .inl rfl
  | followed _ _ _ filled => exact .inr filled

theorem Leads.ne_nil (leads : Leads line word rest) : line ≠ [] := by
  cases leads with
  | alone isWord => exact isWord.nonempty
  | followed isWord => simp [isWord.nonempty]

theorem Leads.head? (leads : Leads line word rest) : line.head? = word.head? := by
  cases leads with
  | alone => rfl
  | followed isWord => rw [List.append_assoc, List.head?_append_of_ne_nil _ isWord.nonempty]

theorem firstWord_append {tail : Text} (inside : ∀ c ∈ word, isBlank c = false)
    (boundary : ∀ c, tail.head? = some c → isBlank c = true) :
    firstWord (word ++ tail) = (word, tail.dropWhile isBlank) := by
  have kept : ∀ c ∈ word, (!isBlank c) = true := by simpa using inside
  have stops : tail.takeWhile (!isBlank ·) = [] ∧ tail.dropWhile (!isBlank ·) = tail := by
    cases tail with
    | nil => exact ⟨rfl, rfl⟩
    | cons c more => simp [boundary c rfl]
  rw [firstWord, List.takeWhile_append_of_pos kept, List.dropWhile_append_of_pos kept, stops.1,
    stops.2, List.append_nil]

theorem firstWord_of_leads (leads : Leads line word rest) : firstWord line = (word, rest) := by
  cases leads with
  | alone isWord =>
    have cut : firstWord (line ++ []) = (line, []) := firstWord_append isWord.plain nofun
    rwa [List.append_nil] at cut
  | @followed _ gap _ isWord wide blank filled =>
    have boundary : ∀ c, (gap ++ rest).head? = some c → isBlank c = true := by
      intro c first
      rw [List.head?_append_of_ne_nil _ wide] at first
      exact blank c (List.mem_of_head? first)
    rw [List.append_assoc, firstWord_append isWord.plain boundary,
      List.dropWhile_append_of_pos blank, Text.dropWhile_of_head filled.bare.head]

theorem exists_leads (filled : Filled line) : ∃ word rest, Leads line word rest := by
  obtain ⟨word, tail, rfl, inside, boundary⟩ := Text.exists_split (!isBlank ·) line
  simp only [Bool.not_eq_true', Bool.not_eq_false'] at inside boundary
  have isWord : IsWord word := by
    refine ⟨?_, inside⟩
    rintro rfl
    obtain ⟨c, more, rfl⟩ := List.exists_cons_of_ne_nil filled.nonempty
    exact Bool.eq_false_iff.mp (filled.bare.head c rfl) (boundary c rfl)
  cases tail with
  | nil =>
    rw [List.append_nil]
    exact ⟨word, [], .alone isWord⟩
  | cons c more =>
    obtain ⟨gap, rest, split, blank, head⟩ := Text.exists_split isBlank (c :: more)
    rw [split] at filled boundary
    rw [split, ← List.append_assoc]
    have wide : gap ≠ [] := by
      rintro rfl
      obtain rfl : c :: more = rest := split
      exact Bool.eq_false_iff.mp (head c rfl) (boundary c rfl)
    have kept : rest ≠ [] := by
      rintro rfl
      have last := filled.bare.last (gap.getLast wide)
      rw [List.append_nil, List.getLast?_append_of_ne_nil _ wide] at last
      exact Bool.eq_false_iff.mp (last (List.getLast?_eq_getLast_of_ne_nil wide))
        (blank _ (List.getLast_mem wide))
    refine ⟨word, rest, .followed isWord wide blank ⟨kept, head, ?_⟩⟩
    intro d last
    apply filled.bare.last d
    rw [← List.append_assoc, List.getLast?_append_of_ne_nil _ kept, last]

end Blank

end Tunables
