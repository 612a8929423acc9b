import Mathlib.Data.Nat.Digits.Defs
import EntityQuery.Proofs.Compilation
import EntityQuery.Text.Hex

/-!
# What a quoted text says

A description puts a text between quotation marks and escapes what would end it or could not be
seen. Nothing is lost by that: the characters can be read back one after another, so two texts are
described alike only if they are the same. The same goes for the namespaces that a query can be
compiled for, no namespace and an empty one included.

* `Text.ofHexadecimal_hexadecimal` reads a code back, and `Text.readChar?_escapeChar` a character,
  whatever follows it.
* `Text.quote_injective` is about whole texts.
* `Value.IsNamespace.content_eq_of_describe` is about namespaces.
-/

namespace EntityQuery

namespace Text

/-! ## Codes -/

/-- The number that digits in hexadecimal stand for. -/
def ofHexadecimal (digits : List Char) : Nat :=
  digits.foldl (fun n c => 16 * n + (Hex.digitValue? c).getD 0) 0

theorem ofHexadecimal_append (digits : List Char) (c : Char) :
    ofHexadecimal (digits ++ [c]) =
      16 * ofHexadecimal digits + (Hex.digitValue? c).getD 0 := by
  rw [ofHexadecimal, List.foldl_append]
  rfl

theorem ofHexadecimal_zeros (width : Nat) (digits : List Char) :
    ofHexadecimal (List.replicate width '0' ++ digits) = ofHexadecimal digits := by
  induction width with
  | zero => rfl
  | succ width ih => exact ih

theorem ofHexadecimal_toDigits (n : Nat) : ofHexadecimal (Nat.toDigits 16 n) = n := by
  induction n using Nat.strongRecOn with
  | _ n ih =>
      by_cases small : n < 16
      · rw [Nat.toDigits_of_lt_base small]
        show 16 * 0 + (Hex.digitValue? (Nat.digitChar n)).getD 0 = n
        rw [(Hex.digitValue?_digitChar small).1]
        simp
      · have last : n % 16 < 16 := Nat.mod_lt n (by decide)
        rw [Nat.toDigits_of_base_le (by decide) (Nat.not_lt.mp small), ofHexadecimal_append,
          ih (n / 16) (by omega), (Hex.digitValue?_digitChar last).1]
        exact Nat.div_add_mod n 16

/-- A number is read back from its digits, whatever their width: `hexadecimal` only puts zeros in
front. -/
theorem ofHexadecimal_hexadecimal (width n : Nat) : ofHexadecimal (hexadecimal width n) = n := by
  rw [hexadecimal, ofHexadecimal_zeros, ofHexadecimal_toDigits]

/-- A number that fits into a width has exactly so many digits, so `readCode` knows how many to
take. -/
theorem length_hexadecimal {width n : Nat} (pos : 0 < width) (fits : n < 16 ^ width) :
    (hexadecimal width n).length = width := by
  have short := Nat.toDigits_length 16 n width pos fits
  rw [hexadecimal, List.length_append, List.length_replicate]
  omega

/-! ## Characters -/

/-- The character whose code has some width, and what follows it. -/
def readCode (width : Nat) (cs : List Char) : Char × List Char :=
  (Char.ofNat (ofHexadecimal (cs.take width)), cs.drop width)

/-- The character that is written behind a backslash, and what follows it. -/
def readEscape? : List Char → Option (Char × List Char)
  | [] => none
  | 'n' :: rest => some ('\n', rest)
  | 'r' :: rest => some ('\r', rest)
  | 't' :: rest => some ('\t', rest)
  | 'x' :: rest => some (readCode 2 rest)
  | 'u' :: rest => some (readCode 4 rest)
  | 'U' :: rest => some (readCode 8 rest)
  | c :: rest => some (c, rest)

/-- The first character of an escaped text, and what follows it: an inverse of `escapeChar`, to show
that `quote` loses nothing. -/
def readChar? : List Char → Option (Char × List Char)
  | [] => none
  | c :: rest => if c = backslash then readEscape? rest else some (c, rest)

/-- A code is read back as the character that it is of, with anything behind it. That spares the
induction over a text a case split by escape. -/
theorem readCode_hexadecimal {width : Nat} {c : Char} (pos : 0 < width)
    (fits : c.toNat < 16 ^ width) (rest : List Char) :
    readCode width (hexadecimal width c.toNat ++ rest) = (c, rest) := by
  have length := length_hexadecimal pos fits
  rw [readCode, List.take_left' length, List.drop_left' length, ofHexadecimal_hexadecimal,
    Char.ofNat_toNat]

theorem readChar?_escapeCode (c : Char) (rest : List Char) :
    readChar? (escapeCode c.toNat ++ rest) = some (c, rest) := by
  unfold escapeCode
  split
  next fits => exact congrArg some (readCode_hexadecimal (by decide) (by simpa using fits) rest)
  split
  next fits => exact congrArg some (readCode_hexadecimal (by decide) (by simpa using fits) rest)
  have fits : c.toNat < 16 ^ 8 := by
    have valid := c.valid
    simp only [UInt32.isValidChar, Nat.isValidChar, UInt32.toNat] at valid
    rw [Char.toNat, UInt32.toNat]
    omega
  exact congrArg some (readCode_hexadecimal (by decide) fits rest)

/-- `readChar?` reads back what `escapeChar` writes, whatever follows. -/
theorem readChar?_escapeChar {mark : Char} (isMark : mark = apostrophe ∨ mark = doubleQuote)
    (c : Char) (rest : List Char) :
    readChar? (escapeChar mark c ++ rest) = some (c, rest) := by
  unfold escapeChar
  split
  next escaped =>
    -- No mark is one of the letters that a backslash gives another meaning.
    have special : c = apostrophe ∨ c = doubleQuote ∨ c = backslash := by
      rcases escaped with rfl | rfl
      · exact isMark.imp_right .inl
      · exact .inr (.inr rfl)
    rcases special with rfl | rfl | rfl <;> rfl
  next plain =>
    split
    next isNewline => rw [isNewline]; rfl
    split
    next isReturn => rw [isReturn]; rfl
    split
    next isTab => rw [isTab]; rfl
    split
    · rw [List.singleton_append, readChar?, if_neg fun isBackslash => plain (.inr isBackslash)]
    · exact readChar?_escapeCode c rest

/-! ## Texts -/

theorem quotationMark_eq (cs : List Char) :
    quotationMark cs = apostrophe ∨ quotationMark cs = doubleQuote := by
  unfold quotationMark
  split
  · exact .inr rfl
  · exact .inl rfl

/-- What `escapeChar` makes of two texts is read back character by character, so the same for the
same mark comes of the same text. -/
theorem flatMap_escapeChar_inj {mark : Char} (isMark : mark = apostrophe ∨ mark = doubleQuote)
    {cs ds : List Char} (same : cs.flatMap (escapeChar mark) = ds.flatMap (escapeChar mark)) :
    cs = ds := by
  have read : ∀ (c : Char) (cs : List Char),
      readChar? ((c :: cs).flatMap (escapeChar mark)) =
        some (c, cs.flatMap (escapeChar mark)) := by
    intro c cs
    rw [List.flatMap_cons]
    exact readChar?_escapeChar isMark c _
  induction cs generalizing ds with
  | nil =>
      cases ds with
      | nil => rfl
      | cons d ds =>
          have first := read d ds
          rw [← same] at first
          cases first
  | cons c cs ih =>
      have first := read c cs
      rw [same] at first
      cases ds with
      | nil => cases first
      | cons d ds =>
          rw [read d ds, Option.some.injEq, Prod.mk.injEq] at first
          obtain ⟨rfl, others⟩ := first
          rw [ih others.symm]

/-- Only the same texts are quoted alike. Which mark is chosen depends on the text, but the first
character of `quote` tells, and then `flatMap_escapeChar_inj` applies. -/
theorem quote_injective : Function.Injective quote := by
  intro s t same
  have sameChars := congrArg String.toList same
  simp only [quote, String.toList_ofList, List.cons_append, List.cons.injEq] at sameChars
  obtain ⟨sameMark, sameRest⟩ := sameChars
  rw [← sameMark] at sameRest
  exact String.toList_inj.mp
    (flatMap_escapeChar_inj (quotationMark_eq _) (List.append_cancel_right sameRest))

theorem head?_quote (s : String) :
    (quote s).toList.head? = some apostrophe ∨ (quote s).toList.head? = some doubleQuote := by
  rw [quote, String.toList_ofList]
  exact (quotationMark_eq s.toList).imp (congrArg some) (congrArg some)

end Text

/-! ## Namespaces -/

/-- The member with a description. -/
def Member.ofText? (s : String) : Option Member :=
  ([.propertyOperator, .compositeOperator, .direction].flatMap Enumeration.members).find?
    (·.text == s)

theorem Member.ofText?_text (m : Member) : ofText? m.text = some m := by
  cases m with
  | property o => cases o <;> decide
  | composite o => cases o <;> decide
  | direction d => cases d <;> decide

theorem Member.head?_text (m : Member) : m.text.toList.head? = some '<' := by
  simp [Member.text, Enumeration.describe]

namespace Value

/-- What a namespace shows: nothing, a text or a member. -/
theorem IsNamespace.content_eq {n : Value} (h : n.IsNamespace) :
    n.content = .none ∨ (∃ s, n.content = .text s) ∨ ∃ m, n.content = .member m := by
  rcases h with isNone | isText
  · exact .inl (content_of_isNone isNone)
  · exact .inr (content_of_isSome isText)

theorem IsNamespace.describe_content {n : Value} (h : n.IsNamespace) :
    n.content.describe = n.describe := by
  have described : ∀ (v : Value) (place : Option Nat), v.IsNamespace →
      v.content.describeIn .described [] Option.none = v.describeIn .described [] place := by
    intro v
    induction v using Value.content.induct with
    | case1 number look ih => exact fun _ h => ih (some number) h
    | case2 v notObject =>
        intro place h
        cases v with
        | none | text _ | member _ => rfl
        | object _ look => exact absurd rfl (notObject _ look)
        | _ => simp [IsNamespace, isNone, asText?] at h
  exact described n Option.none h

/-- Only the same namespaces are described alike: `describe` quotes texts, members stand in angle
brackets, and nothing is a word of its own. -/
theorem IsNamespace.content_eq_of_describe {n n' : Value} (h : n.IsNamespace)
    (h' : n'.IsNamespace) (same : n'.describe = n.describe) : n'.content = n.content := by
  rw [← h.describe_content, ← h'.describe_content] at same
  -- The first character of a description tells whether there is a namespace, and of which kind.
  have noneText : ∀ s, Value.none.describe ≠ (Value.text s).describe := by
    intro s same
    have head := congrArg (fun shown => shown.toList.head?) (Except.ok.inj same)
    rcases Text.head?_quote s with isMark | isMark <;> exact absurd (head.trans isMark) (by decide)
  have noneMember : ∀ m, Value.none.describe ≠ (Value.member m).describe := by
    intro m same
    have head := congrArg (fun shown => shown.toList.head?) (Except.ok.inj same)
    exact absurd (head.trans m.head?_text) (by decide)
  have textMember : ∀ s m, (Value.text s).describe ≠ (Value.member m).describe := by
    intro s m same
    have head := (congrArg (fun shown => shown.toList.head?) (Except.ok.inj same)).trans
      m.head?_text
    rcases Text.head?_quote s with isMark | isMark <;>
      exact absurd (isMark.symm.trans head) (by decide)
  rcases h.content_eq with seen | ⟨s, seen⟩ | ⟨m, seen⟩ <;>
    rcases h'.content_eq with seen' | ⟨s', seen'⟩ | ⟨m', seen'⟩ <;>
    rw [seen, seen'] at same ⊢
  · exact absurd same.symm (noneText s')
  · exact absurd same.symm (noneMember m')
  · exact absurd same (noneText s)
  · rw [Text.quote_injective (Except.ok.inj same)]
  · exact absurd same.symm (textMember s m')
  · exact absurd same (noneMember m)
  · exact absurd same (textMember s' m)
  · have found := Member.ofText?_text m'
    rw [show m'.text = m.text from Except.ok.inj same, Member.ofText?_text] at found
    rw [Option.some.inj found]

end Value

end EntityQuery
