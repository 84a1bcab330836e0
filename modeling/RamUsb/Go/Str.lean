import Mathlib.Data.List.Basic
import Mathlib.Data.List.Infix

/-!
# Go strings and the `strings` package

A Go `string` is an immutable sequence of bytes: `len` counts bytes, `[]byte(s)` and
`string(b)` copy the bytes unchanged, and the functions of the `strings` package that the
services call (`Split`, `Contains`, `HasPrefix`, `Count`, `ToLower`, `ReplaceAll`, `Join`)
work on bytes. The separators and patterns the source passes to them are all ASCII, so each of them is a
one-byte or a byte-list operation here:

* `Str` is `List UInt8`, `lit` turns an (ASCII) literal of the source into its bytes;
* `split` is `strings.Split` with a one-byte separator, which is the library's
  `List.splitOn`; `split_intercalate` is the round
  trip of a key built with `fmt.Sprintf("%s:%s:%s", ...)` and `not_mem_of_mem_split` says
  no piece holds the separator;
* `itoa` is `fmt.Sprintf("%d", n)`, which writes no `:` (`colon_not_mem_itoa`);
* `contains`, `hasPrefix`, `count` are `strings.Contains`, `strings.HasPrefix` and
  `strings.Count` with a one-byte pattern;
* `replaceAll` is `strings.ReplaceAll` with a one-byte pattern, and `join` is
  `strings.Join`;
* `toLower` is `strings.ToLower` on ASCII letters. Go's version also folds the non-ASCII
  letters of Unicode; the model leaves every non-ASCII byte as it is.

A Go function that returns its first error is a chain of `if ... { return err }`; the
model writes it as a chain of `if ... then .error ... else ...` over `Except Str`, and
`ite_error_eq_ok`, `bind_eq_ok_iff` and `forM_eq_ok_iff` (a `for ... range` loop that
returns on its first failing element) turn "it returned `nil`" into the conjunction of
its checks.
-/

namespace RamUsb.Go

/-- A Go `string`, as the bytes it holds. -/
abbrev Str := List UInt8

/-- A string literal of the source. Every literal the model uses is ASCII, so each
character is one byte. -/
def lit (s : String) : Str := s.data.map Char.toUInt8

/-- `strings.Split(s, sep)` for a one-byte separator: the pieces between the occurrences
of `sep`, the empty string giving one empty piece. -/
def split (s : Str) (sep : UInt8) : List Str := s.splitOn sep

/-- `strings.Contains(s, substr)`. -/
def contains (s substr : Str) : Bool := decide (substr <:+: s)

/-- `strings.HasPrefix(s, prefix)`. -/
def hasPrefix (s pre : Str) : Bool := pre.isPrefixOf s

/-- `strings.Count(s, sep)` for a one-byte `sep`. -/
def count (s : Str) (sep : UInt8) : Nat := s.count sep

/-- `unicode.ToLower` on one ASCII byte: `A`–`Z` to `a`–`z`, every other byte unchanged. -/
def lowerByte (b : UInt8) : UInt8 := if 65 ≤ b ∧ b ≤ 90 then b + 32 else b

/-- `strings.ToLower(s)`, on ASCII letters. -/
def toLower (s : Str) : Str := s.map lowerByte

/-- `fmt.Sprintf("%d", n)`: the decimal digits of `n`, after a `-` when it is negative. -/
def itoa (n : Int) : Str := lit (toString n)

/-- `:`, the separator of the aggregator's composite keys. -/
def colon : UInt8 := 58

/-- `strings.ReplaceAll(s, old, new)` for a one-byte `old`: every occurrence of the byte
is replaced by `new`. -/
def replaceAll (s : Str) (old : UInt8) (new : Str) : Str :=
  s.flatMap fun b => if b = old then new else [b]

/-- `strings.Join(elems, sep)`. -/
def join (elems : List Str) (sep : Str) : Str := sep.intercalate elems

/-! ### Lower case -/

/-- Lower-casing maps a byte that is no ASCII letter to itself only from itself. -/
theorem lowerByte_eq_iff {b c : UInt8} (hc : ¬ (65 ≤ c ∧ c ≤ 90)) (hc' : ¬ (97 ≤ c ∧ c ≤ 122)) :
    lowerByte b = c ↔ b = c := by
  unfold lowerByte
  split_ifs with h
  · refine ⟨fun heq => absurd ?_ hc', fun heq => absurd (heq ▸ h) hc⟩
    subst heq
    have e : (b + 32).toBitVec.toNat = (b.toBitVec.toNat + 32) % 256 := by
      rw [show (b + 32).toBitVec = b.toBitVec + 32 from rfl, BitVec.toNat_add]; rfl
    simp only [UInt8.le_def, BitVec.le_def, e, show (65 : UInt8).toBitVec.toNat = 65 from rfl,
      show (90 : UInt8).toBitVec.toNat = 90 from rfl, show (97 : UInt8).toBitVec.toNat = 97 from rfl,
      show (122 : UInt8).toBitVec.toNat = 122 from rfl] at h ⊢
    omega
  · rfl

/-- A byte that is no ASCII letter occurs in the lower-cased string exactly when it occurs
in the string. -/
theorem mem_toLower_iff {s : Str} {c : UInt8} (hc : ¬ (65 ≤ c ∧ c ≤ 90))
    (hc' : ¬ (97 ≤ c ∧ c ≤ 122)) : c ∈ toLower s ↔ c ∈ s := by
  simp [toLower, lowerByte_eq_iff hc hc']

/-! ### Splitting -/

/-- Joining pieces that hold no separator and splitting again gives the pieces back. -/
theorem split_intercalate (sep : UInt8) (ls : List Str) (hx : ∀ l ∈ ls, sep ∉ l)
    (hls : ls ≠ []) : split ([sep].intercalate ls) sep = ls :=
  List.splitOn_intercalate ls sep hx hls

/-- No piece of `strings.Split(s, sep)` holds the separator. -/
theorem not_mem_of_mem_split {s w : Str} {sep : UInt8} (hw : w ∈ split s sep) : sep ∉ w := by
  unfold split List.splitOn at hw
  induction s generalizing w with
  | nil => simp_all
  | cons b s ih =>
    rw [List.splitOnP_cons] at hw
    by_cases h : b = sep
    · simp only [h, beq_self_eq_true, if_true, List.mem_cons] at hw
      rcases hw with rfl | hw
      exacts [List.not_mem_nil _, ih hw]
    · obtain ⟨v, vs, hv⟩ := List.exists_cons_of_ne_nil (List.splitOnP_ne_nil (· == sep) s)
      simp only [beq_iff_eq, h, if_false, hv, List.modifyHead_cons, List.mem_cons] at hw
      rcases hw with rfl | hw
      · exact List.not_mem_cons_of_ne_of_not_mem (Ne.symm h) (ih (by simp [hv]))
      · exact ih (by simp [hv, hw])

@[simp] theorem join_singleton (a sep : Str) : join [a] sep = a := by
  simp [join, List.intercalate]

theorem join_cons_cons (a b : Str) (l : List Str) (sep : Str) :
    join (a :: b :: l) sep = a ++ sep ++ join (b :: l) sep := by
  simp [join, List.intercalate, List.intersperse]

/-! ### Decimal integers -/

theorem digitChar_isDigit {d : Nat} (h : d < 10) : (Nat.digitChar d).isDigit := by
  have : ∀ f : Fin 10, (Nat.digitChar f.val).isDigit := by decide
  exact this ⟨d, h⟩

theorem toDigitsCore_isDigit (fuel n : Nat) (ds : List Char) (hds : ∀ c ∈ ds, c.isDigit) :
    ∀ c ∈ Nat.toDigitsCore 10 fuel n ds, c.isDigit := by
  induction fuel generalizing n ds with
  | zero => exact hds
  | succ k ih =>
    have hd : (Nat.digitChar (n % 10)).isDigit := digitChar_isDigit (Nat.mod_lt _ (by decide))
    change ∀ c ∈ (if n / 10 = 0 then Nat.digitChar (n % 10) :: ds
      else Nat.toDigitsCore 10 k (n / 10) (Nat.digitChar (n % 10) :: ds)), c.isDigit
    split
    · intro c hc
      rcases List.mem_cons.mp hc with rfl | hc
      exacts [hd, hds c hc]
    · exact ih _ _ fun c hc => (List.mem_cons.mp hc).elim (· ▸ hd) (hds c)

/-- `fmt.Sprintf("%d", n)` writes only digits and a minus sign. -/
theorem toString_int_isDigit (n : Int) : ∀ c ∈ (toString n).data, c.isDigit ∨ c = '-' := by
  have hnat (m : Nat) : ∀ c ∈ (toString m).data, c.isDigit :=
    toDigitsCore_isDigit _ _ _ (by simp)
  cases n with
  | ofNat m => exact fun c hc => Or.inl (hnat m c hc)
  | negSucc m =>
    intro c hc
    change c ∈ '-' :: (toString (m + 1)).data at hc
    rcases List.mem_cons.mp hc with rfl | hc
    exacts [Or.inr rfl, Or.inl (hnat _ c hc)]

theorem toUInt8_ne_colon_of_isDigit {c : Char} (hd : c.isDigit) : c.toUInt8 ≠ colon := by
  intro h
  simp only [Char.isDigit, Bool.and_eq_true, decide_eq_true_eq] at hd
  have h1 : 48 ≤ c.val.toNat := hd.1
  have h2 : c.val.toNat ≤ 57 := hd.2
  have hv : c.toUInt8.toNat = c.val.toNat % 256 := rfl
  rw [h] at hv
  have : colon.toNat = 58 := rfl
  omega

theorem toDigitsCore_ne_nil (fuel n : Nat) (ds : List Char) (h : ds ≠ [] ∨ fuel ≠ 0) :
    Nat.toDigitsCore 10 fuel n ds ≠ [] := by
  induction fuel generalizing n ds with
  | zero => simpa using h
  | succ k ih =>
    change (if n / 10 = 0 then Nat.digitChar (n % 10) :: ds
      else Nat.toDigitsCore 10 k (n / 10) (Nat.digitChar (n % 10) :: ds)) ≠ []
    split
    · exact List.cons_ne_nil _ _
    · exact ih _ _ (.inl (List.cons_ne_nil _ _))

/-- `fmt.Sprintf("%d", n)` writes at least one byte, each a digit or a minus sign. -/
theorem itoa_bytes (n : Int) :
    itoa n ≠ [] ∧ ∀ b ∈ itoa n, (48 ≤ b.toNat ∧ b.toNat ≤ 57) ∨ b = 45 := by
  refine ⟨?_, fun b hb => ?_⟩
  · cases n with
    | ofNat m => simpa [itoa, lit] using toDigitsCore_ne_nil (m + 1) m [] (.inr (by omega))
    | negSucc m => simp [itoa, lit]; exact fun h => nomatch (congrArg List.length h)
  · simp only [itoa, lit, List.mem_map] at hb
    obtain ⟨c, hc, rfl⟩ := hb
    rcases toString_int_isDigit n c hc with hd | rfl
    · simp only [Char.isDigit, Bool.and_eq_true, decide_eq_true_eq] at hd
      have hv : c.toUInt8.toNat = c.val.toNat % 256 := rfl
      have h1 : 48 ≤ c.val.toNat := hd.1
      have h2 : c.val.toNat ≤ 57 := hd.2
      left; omega
    · exact .inr rfl

/-- A decimal integer never holds the aggregator's key separator. -/
theorem colon_not_mem_itoa (n : Int) : colon ∉ itoa n := by
  simp only [itoa, lit, List.mem_map, not_exists, not_and]
  intro c hc heq
  rcases toString_int_isDigit n c hc with hd | rfl
  · exact toUInt8_ne_colon_of_isDigit hd heq
  · exact absurd heq (by decide)

/-! ### Substrings and prefixes -/

@[simp] theorem contains_iff (s substr : Str) : contains s substr = true ↔ substr <:+: s := by
  simp [contains]

@[simp] theorem hasPrefix_iff (s pre : Str) : hasPrefix s pre = true ↔ pre <+: s := by
  simp [hasPrefix, List.isPrefixOf_iff_prefix]

/-- A one-byte pattern is contained exactly when the byte occurs. -/
theorem contains_singleton (s : Str) (b : UInt8) : contains s [b] = true ↔ b ∈ s := by
  rw [contains_iff]
  refine ⟨fun h => h.subset (List.mem_singleton_self b), fun h => ?_⟩
  obtain ⟨u, v, rfl⟩ := List.append_of_mem h
  exact ⟨u, v, by simp⟩

/-! ### Early returns -/

@[simp] theorem ite_error_eq_ok {ε : Type} {c : Prop} [Decidable c] {e : ε} {x : Except ε Unit} :
    (if c then .error e else x) = .ok () ↔ ¬ c ∧ x = .ok () := by
  by_cases h : c <;> simp [h]

@[simp] theorem ite_ok_eq_ok {ε : Type} {c : Prop} [Decidable c] {e : ε} :
    (if c then .ok () else .error e : Except ε Unit) = .ok () ↔ c := by
  by_cases h : c <;> simp [h]

@[simp] theorem bind_eq_ok_iff {ε : Type} {x : Except ε Unit} {f : Unit → Except ε Unit} :
    x >>= f = .ok () ↔ x = .ok () ∧ f () = .ok () := by
  rcases x with e | u <;> simp [bind, Except.bind]

/-- A `for ... range` loop whose body returns an error on its first failing element
succeeds exactly when every iteration succeeds. -/
theorem forM_eq_ok_iff {α ε : Type} (l : List α) (f : α → Except ε Unit) :
    l.forM f = .ok () ↔ ∀ x ∈ l, f x = .ok () := by
  induction l with
  | nil => exact iff_of_true rfl fun _ h => absurd h (List.not_mem_nil _)
  | cons a l ih =>
    simp only [List.forM_cons, List.mem_cons, forall_eq_or_imp, ← ih]
    rcases h : f a with e | u <;> simp [h, bind, Except.bind]

end RamUsb.Go
