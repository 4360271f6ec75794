import OrderTrials.Json.Printer
import OrderTrials.Json.Shape
import OrderTrials.Proofs.Numerals
/-
# Texts and documents

A JSON text is read in two steps, and each of them is turned around here. From the tokens of a
document the machine builds the document, whatever is still open (`Json.Document.run_tokens`). And
what is written for a token is read as that token, whatever stands behind it, as long as that does
not go on with a letter or a digit (`Json.Stops`): a string comes back from its escapes
(`Json.Escapes.codes?`), and a whole number from its digits (`Json.numeral?_showInteger`).

Key definitions: `Json.Document.tokens`, `Json.Escapes`, `Json.numeralOf`, `Json.Stops`.
Key theorems: `Json.Document.run_tokens`, `Json.Escapes.codes?`, `Json.escapes_flatMap`,
`Json.numeral?_showInteger`, `Json.whole?_numeralOf`, `Json.tokens?_string`.
-/

namespace OrderTrials
namespace Json

/-! ### Documents from their tokens -/

namespace Document

mutual

/-- The tokens of a document. -/
def tokens : Document → List Token
  | .leaf s => [.leaf s]
  | .list [] => [.beginList, .endList]
  | .list (d :: r) => .beginList :: (d.tokens ++ itemTokens r)
  | .object [] => [.beginObject, .endObject]
  | .object ((k, d) :: r) =>
    .beginObject :: .leaf (.text k) :: .colon :: (d.tokens ++ memberTokens r)

/-- The tokens after an item of a list. -/
def itemTokens : List Document → List Token
  | [] => [.endList]
  | d :: r => .comma :: (d.tokens ++ itemTokens r)

/-- The tokens after a member of an object. -/
def memberTokens : List (Option String × Document) → List Token
  | [] => [.endObject]
  | (k, d) :: r => .comma :: .leaf (.text k) :: .colon :: (d.tokens ++ memberTokens r)

end

/-- At the start of a list a document is begun as everywhere else. -/
theorem run_item (d : Document) (stack : List Frame) (rest : List Token) :
    run stack .item (d.tokens ++ rest) = run stack .value (d.tokens ++ rest) := by
  cases d with
  | leaf s => rfl
  | list items => cases items <;> rfl
  | object members =>
    cases members with
    | nil => rfl
    | cons m r => rfl

mutual

/-- **The machine builds a document from its tokens,** whatever is still open. -/
theorem run_tokens : ∀ (d : Document) (stack : List Frame) (rest : List Token),
    run stack .value (d.tokens ++ rest) = run stack (.done d) rest
  | .leaf s, stack, rest => rfl
  | .list [], stack, rest => rfl
  | .list (d :: r), stack, rest => by
    rw [tokens, List.cons_append, List.append_assoc]
    change run (.list [] :: stack) .item (d.tokens ++ (itemTokens r ++ rest)) = _
    rw [run_item, run_tokens d, run_itemTokens r]
    rfl
  | .object [], stack, rest => rfl
  | .object ((k, d) :: r), stack, rest => by
    rw [tokens, List.cons_append, List.cons_append, List.cons_append, List.append_assoc]
    change run (.object [] k :: stack) .value (d.tokens ++ (memberTokens r ++ rest)) = _
    rw [run_tokens d, run_memberTokens r]
    rfl

theorem run_itemTokens : ∀ (r : List Document) (d : Document) (before : List Document)
    (stack : List Frame) (rest : List Token),
    run (.list before :: stack) (.done d) (itemTokens r ++ rest) =
      run stack (.done (.list (before.reverse ++ d :: r))) rest
  | [], d, before, stack, rest => by
    change run stack (.done (.list (d :: before).reverse)) rest = _
    rw [List.reverse_cons]
  | d' :: r, d, before, stack, rest => by
    rw [itemTokens, List.cons_append, List.append_assoc]
    change run (.list (d :: before) :: stack) .value (d'.tokens ++ (itemTokens r ++ rest)) = _
    rw [run_tokens d', run_itemTokens r, List.reverse_cons, List.append_assoc]
    rfl

theorem run_memberTokens : ∀ (r : List (Option String × Document)) (k : Option String)
    (d : Document) (before : List (Option String × Document)) (stack : List Frame)
    (rest : List Token),
    run (.object before k :: stack) (.done d) (memberTokens r ++ rest) =
      run stack (.done (.object (before.reverse ++ (k, d) :: r))) rest
  | [], k, d, before, stack, rest => by
    change run stack (.done (.object ((k, d) :: before).reverse)) rest = _
    rw [List.reverse_cons]
  | (k', d') :: r, k, d, before, stack, rest => by
    rw [memberTokens, List.cons_append, List.cons_append, List.cons_append, List.append_assoc]
    change run (.object ((k, d) :: before) k' :: stack) .value
      (d'.tokens ++ (memberTokens r ++ rest)) = _
    rw [run_tokens d', run_memberTokens r, List.reverse_cons, List.append_assoc]
    rfl

end

theorem ofTokens?_tokens (d : Document) : ofTokens? d.tokens = some d := by
  have built := run_tokens d [] []
  rw [List.append_nil] at built
  rw [ofTokens?, built]
  rfl

end Document

/-! ### Strings from their escapes -/

/-- The characters of a string and what may stand for them between the quotes: a character itself, a
letter behind a backslash, or four hexadecimal digits, twice for a character beyond the first
plane. Half of such a pair stands for nothing. -/
inductive Escapes : List Char → List Char → Prop where
  | nothing : Escapes [] []
  | plain {c : Char} {x s : List Char} : c ≠ '"' → c ≠ '\\' → ¬ c.toNat < 0x20 → Escapes x s →
      Escapes (c :: x) (c :: s)
  | letter {e c : Char} {x s : List Char} : escaped? e = some c → Escapes x s →
      Escapes (c :: x) ('\\' :: e :: s)
  | code {h i j k : Char} {n : Nat} {x s : List Char} : hex4? h i j k = some n →
      ¬ (0xD800 ≤ n ∧ n < 0xE000) → Escapes x s →
      Escapes (Char.ofNat n :: x) ('\\' :: 'u' :: h :: i :: j :: k :: s)
  | pair {h i j k h' i' j' k' : Char} {high low : Nat} {x s : List Char} :
      hex4? h i j k = some high → 0xD800 ≤ high ∧ high < 0xDC00 →
      hex4? h' i' j' k' = some low → 0xDC00 ≤ low ∧ low < 0xE000 → Escapes x s →
      Escapes (Char.ofNat (0x10000 + (high - 0xD800) * 0x400 + (low - 0xDC00)) :: x)
        ('\\' :: 'u' :: h :: i :: j :: k :: '\\' :: 'u' :: h' :: i' :: j' :: k' :: s)

/-- A backslash and a letter are read as the character that the letter stands for. -/
theorem codes?_letter {e c : Char} (stands : escaped? e = some c) (rest : List Char) :
    codes? ('\\' :: e :: rest) = (codes? rest).map fun p => (c.toNat :: p.1, p.2) := by
  have noCode : e ≠ 'u' := by
    rintro rfl
    have nothing : escaped? 'u' = none := by decide
    rw [nothing] at stands
    cases stands
  simp [codes?, noCode, stands]

/-- A character that needs no escape is read as itself. -/
theorem codes?_plain {c : Char} (quote : c ≠ '"') (slash : c ≠ '\\') (plain : ¬ c.toNat < 0x20)
    (rest : List Char) :
    codes? (c :: rest) = (codes? rest).map fun p => (c.toNat :: p.1, p.2) := by
  simp [codes?, slash, plain]

/-- Four hexadecimal digits are read as the number that they spell. -/
theorem codes?_code {h i j k : Char} {n : Nat} (spelled : hex4? h i j k = some n)
    (rest : List Char) : codes? ('\\' :: 'u' :: h :: i :: j :: k :: rest) =
      (codes? rest).map fun p => (n :: p.1, p.2) := by
  rw [codes?, spelled]

/-- A code point that is no half of a pair stands for itself. -/
theorem joinPairs_code {n : Nat} (single : ¬ (0xD800 ≤ n ∧ n < 0xE000)) (ns : List Nat) :
    joinPairs (n :: ns) = (joinPairs ns).map (Char.ofNat n :: ·) := by
  have high : ¬ (0xD800 ≤ n ∧ n < 0xDC00) := by omega
  have low : ¬ (0xDC00 ≤ n ∧ n < 0xE000) := by omega
  rw [joinPairs.eq_def]
  simp only [if_neg high, if_neg low]

theorem joinPairs_char (c : Char) (ns : List Nat) :
    joinPairs (c.toNat :: ns) = (joinPairs ns).map (c :: ·) := by
  have valid : c.toNat < 0xD800 ∨ 0xDFFF < c.toNat ∧ c.toNat < 0x110000 := c.valid
  rw [joinPairs_code (by omega), Char.ofNat_toNat]

theorem joinPairs_pair {high low : Nat} (first : 0xD800 ≤ high ∧ high < 0xDC00)
    (second : 0xDC00 ≤ low ∧ low < 0xE000) (ns : List Nat) :
    joinPairs (high :: low :: ns) = (joinPairs ns).map
      (Char.ofNat (0x10000 + (high - 0xD800) * 0x400 + (low - 0xDC00)) :: ·) := by
  rw [joinPairs.eq_def]
  simp only [if_pos first, if_pos second]

/-- **A string is read back from its escapes,** up to the closing quote. -/
theorem Escapes.codes? {x s : List Char} (h : Escapes x s) (rest : List Char) :
    ∃ ns, codes? (s ++ '"' :: rest) = some (ns, rest) ∧ joinPairs ns = some x := by
  induction h with
  | nothing => exact ⟨[], by rw [List.nil_append, Json.codes?], by rw [joinPairs]⟩
  | plain quote slash plain _ ih =>
    obtain ⟨ns, read, joined⟩ := ih
    refine ⟨_, ?_, (joinPairs_char _ ns).trans (by rw [joined]; rfl)⟩
    rw [List.cons_append, codes?_plain quote slash plain, read]
    rfl
  | letter stands _ ih =>
    obtain ⟨ns, read, joined⟩ := ih
    refine ⟨_, ?_, (joinPairs_char _ ns).trans (by rw [joined]; rfl)⟩
    rw [List.cons_append, List.cons_append, codes?_letter stands, read]
    rfl
  | code spelled single _ ih =>
    obtain ⟨ns, read, joined⟩ := ih
    refine ⟨_, ?_, (joinPairs_code single ns).trans (by rw [joined]; rfl)⟩
    simp only [List.cons_append]
    rw [codes?_code spelled, read]
    rfl
  | pair spelled first spelled' second _ ih =>
    obtain ⟨ns, read, joined⟩ := ih
    refine ⟨_, ?_, (joinPairs_pair first second ns).trans (by rw [joined]; rfl)⟩
    simp only [List.cons_append]
    rw [codes?_code spelled, codes?_code spelled', read]
    rfl

theorem hex4?_of_control {n : Nat} (h : n < 0x20) :
    hex4? '0' '0' (Text.hexDigit (n / 16 % 16)) (Text.hexDigit (n % 16)) = some n := by
  have all : ∀ n < 0x20,
      hex4? '0' '0' (Text.hexDigit (n / 16 % 16)) (Text.hexDigit (n % 16)) = some n := by decide
  exact all n h

/-- What is printed for a character stands for it. -/
theorem Escapes.escape {x s : List Char} (h : Escapes x s) (c : Char) :
    Escapes (c :: x) (escape c ++ s) := by
  unfold Json.escape
  split
  · subst_vars
    exact .letter rfl h
  split
  · subst_vars
    exact .letter rfl h
  split
  · subst_vars
    exact .letter rfl h
  split
  · subst_vars
    exact .letter rfl h
  split
  · subst_vars
    exact .letter rfl h
  split
  · subst_vars
    exact .letter rfl h
  split
  · subst_vars
    exact .letter rfl h
  split
  · rename_i control
    have code := Escapes.code (hex4?_of_control control) (by omega) h
    rw [Char.ofNat_toNat] at code
    simpa only [Text.hexDigits, List.nil_append, List.cons_append] using code
  · rename_i quote slash _ _ _ _ _ plain
    exact .plain quote slash plain h

theorem escapes_flatMap (x : List Char) : Escapes x (x.flatMap escape) := by
  induction x with
  | nil => exact .nothing
  | cons c x ih => exact ih.escape c

/-! ### Numerals -/

/-- The numeral of a whole number. -/
def numeralOf (n : Int) : Numeral := ⟨decide (n < 0), Text.digits n.natAbs, [], none⟩

/-- The leading digit of a positive number is not zero. -/
theorem digits_leading {n : Nat} (pos : 0 < n) : ∀ r, Text.digits n ≠ '0' :: r := by
  fun_induction Text.digits n with
  | case1 n small =>
    intro r h
    have zero : Text.digitChar n = '0' := (List.cons.inj h).1
    have value := Text.toNat_digitChar n
    rw [zero] at value
    have : '0'.toNat = 48 := rfl
    omega
  | case2 n large ih =>
    intro r h
    obtain ⟨c, front, hc⟩ := List.exists_cons_of_ne_nil (Text.digits_ne_nil (n / 10))
    rw [hc, List.cons_append] at h
    rw [(List.cons.inj h).1] at hc
    exact ih (by omega) front hc

/-- A number has no leading zero before other digits. -/
theorem digits_ne_zero_cons (n : Nat) (c : Char) (r : List Char) :
    Text.digits n ≠ '0' :: c :: r := by
  intro h
  rcases Nat.eq_zero_or_pos n with rfl | pos
  · rw [Text.digits] at h
    cases h
  · exact digits_leading pos _ h

/-- What is taken from a text, and where that ends. -/
theorem takeWhile_exact {p : Char → Bool} {front rest : List Char}
    (inside : ∀ c ∈ front, p c = true) (stop : ∀ c ∈ rest.head?, p c = false) :
    (front ++ rest).takeWhile p = front ∧ (front ++ rest).dropWhile p = rest := by
  rw [List.takeWhile_append_of_pos inside, List.dropWhile_append_of_pos inside]
  cases rest with
  | nil => exact ⟨List.append_nil _, rfl⟩
  | cons c r =>
    have outside : p c = false := stop c rfl
    rw [List.takeWhile_cons, List.dropWhile_cons, outside]
    exact ⟨List.append_nil _, rfl⟩

/-- Digits that are left when the sign has been taken off spell a numeral. -/
theorem numeral?_of_sign {s : List Char} {negative : Bool} {n : Nat}
    (sign : (match s with | '-' :: t => (true, t) | t => (false, t)) = (negative, Text.digits n)) :
    numeral? s = some ⟨negative, Text.digits n, [], none⟩ := by
  have stop : ∀ c ∈ ([] : List Char).head?, c.isDigit = false := nofun
  have all := takeWhile_exact (fun c => Text.isDigit_of_mem_digits (c := c) (n := n)) stop
  rw [List.append_nil] at all
  have span : spanDigits (Text.digits n) = (Text.digits n, []) := by
    rw [spanDigits, all.1, all.2]
  unfold numeral?
  split
  rename_i sign'
  obtain ⟨rfl, rfl⟩ := Prod.mk.inj (sign'.symm.trans sign)
  rw [span]
  dsimp only
  split
  · rename_i nothing
    exact absurd nothing (Text.digits_ne_nil n)
  · rename_i leading
    exact absurd leading (digits_ne_zero_cons n _ _)
  · rfl

theorem sign_digits (n : Nat) :
    (match Text.digits n with | '-' :: t => (true, t) | t => (false, t)) =
      (false, Text.digits n) := by
  split
  · rename_i minus
    have digit := Text.isDigit_of_mem_digits (n := n) (minus ▸ List.mem_cons_self)
    exact absurd digit (by decide)
  · rfl

/-- **A whole number spells its numeral.** -/
theorem numeral?_showInteger (n : Int) :
    numeral? (Text.showInteger n).toList = some (numeralOf n) := by
  cases n with
  | ofNat n =>
    rw [Text.showInteger, Text.showNatural, String.toList_ofList]
    exact numeral?_of_sign (sign_digits n)
  | negSucc n =>
    have below : decide (Int.negSucc n < 0) = true := decide_eq_true (Int.negSucc_lt_zero n)
    rw [Text.showInteger, String.toList_ofList, numeralOf, below]
    exact numeral?_of_sign (n := n + 1) rfl

/-- Different numbers have different numerals. -/
theorem numeralOf_inj {n m : Int} (h : numeralOf n = numeralOf m) : n = m := by
  injection h with sign digits
  have same : n.natAbs = m.natAbs := by
    have value := congrArg (Text.digitsValue 0) digits
    rw [Text.digitsValue_digits, Text.digitsValue_digits] at value
    exact Option.some.inj value
  have below := decide_eq_decide.mp sign
  omega

/-- A number that fits a word is what its numeral stands for. -/
theorem whole?_numeralOf {n : Int} (least : Text.minWord ≤ n) (most : n ≤ maxUnsigned) :
    (numeralOf n).whole? = some n := by
  have value : Numeral.whole? (numeralOf n) =
      if n < 0 then
        if n.natAbs != 0 && Text.isSignedWord (-(n.natAbs : Int)) then some (-(n.natAbs : Int))
        else none
      else if n.natAbs ≤ maxUnsigned then some (n.natAbs : Int) else none := by
    simp only [Numeral.whole?, numeralOf, List.isEmpty_nil, Option.isNone_none, Bool.and_self,
      if_true, Text.digitsValue_digits, Option.bind_some, decide_eq_true_eq]
  rw [value]
  rcases Int.lt_or_le n 0 with below | above
  · have back : -(n.natAbs : Int) = n := by omega
    have word : Text.isSignedWord n = true := by
      rw [Text.isSignedWord, Bool.and_eq_true, decide_eq_true_eq, decide_eq_true_eq]
      exact ⟨least, Int.le_trans (Int.le_of_lt below) (by decide)⟩
    have something : (n.natAbs != 0) = true := bne_iff_ne.mpr (by omega)
    rw [if_pos below, back, word, something]
    rfl
  · have back : (n.natAbs : Int) = n := by omega
    rw [if_neg (Int.not_lt.mpr above), back, if_pos (by omega)]

/-! ### Tokens of a text -/

/-- A text that goes on with neither a letter nor a part of a numeral. -/
def Stops (rest : List Char) : Prop :=
  ∀ c ∈ rest.head?, isNumeralChar c = false ∧ c.isAlpha = false

theorem stops_nil : Stops [] := nofun

theorem stops_cons {c : Char} (h : isNumeralChar c = false ∧ c.isAlpha = false)
    (rest : List Char) : Stops (c :: rest) := by
  intro c' hc
  obtain rfl := Option.some.inj hc
  exact h

theorem tokens?_space {c : Char} (h : isSpace c = true) (rest : List Char) :
    tokens? (c :: rest) = tokens? rest := by
  rw [tokens?, if_pos h]

theorem tokens?_mark {c : Char} {t : Token} (h : isSpace c = false) (mark : mark? c = some t)
    (rest : List Char) : tokens? (c :: rest) = (tokens? rest).map (t :: ·) := by
  rw [tokens?, h, if_neg Bool.false_ne_true, mark]

/-- A string between quotes is one token. -/
theorem tokens?_string {x : String} {s : List Char} (h : Escapes x.toList s) (rest : List Char) :
    tokens? ('"' :: s ++ ['"'] ++ rest) = (tokens? rest).map (.leaf (.text (some x)) :: ·) := by
  obtain ⟨ns, text, joined⟩ := h.codes? rest
  rw [List.append_assoc, List.singleton_append, List.cons_append, tokens?]
  have space : isSpace '"' = false := by decide
  have mark : mark? '"' = none := by decide
  rw [space, if_neg Bool.false_ne_true, mark]
  dsimp only
  rw [if_pos rfl]
  split
  · rename_i nothing
    rw [text] at nothing
    cases nothing
  · rename_i cs left read
    rw [text] at read
    cases read
    rw [joined, Option.map_some, String.ofList_toList]

/-- A minus sign or a digit, and digits behind it. -/
theorem exists_showInteger (n : Int) : ∃ c r, (Text.showInteger n).toList = c :: r ∧
    (c = '-' || c.isDigit) = true ∧ ∀ x ∈ r, isNumeralChar x = true := by
  have numeral {x : Char} (h : x.isDigit = true) : isNumeralChar x = true := by
    simp [isNumeralChar, h]
  cases n with
  | ofNat n =>
    obtain ⟨c, r, h⟩ := List.exists_cons_of_ne_nil (Text.digits_ne_nil n)
    have digit (x : Char) (hx : x ∈ c :: r) : x.isDigit = true :=
      Text.isDigit_of_mem_digits (n := n) (h ▸ hx)
    refine ⟨c, r, ?_, by rw [digit c List.mem_cons_self, Bool.or_true], fun x hx =>
      numeral (digit x (List.mem_cons_of_mem c hx))⟩
    rw [Text.showInteger, Text.showNatural, String.toList_ofList, h]
  | negSucc n =>
    refine ⟨'-', Text.digits (n + 1), ?_, rfl, fun x hx => numeral (Text.isDigit_of_mem_digits hx)⟩
    rw [Text.showInteger, String.toList_ofList]

/-- The first character of a numeral is neither white space nor a mark nor a quote. -/
theorem plain_of_numeral {c : Char} (h : (c = '-' || c.isDigit) = true) :
    isSpace c = false ∧ mark? c = none ∧ c ≠ '"' := by
  have ne (x : Char) (hx : (x = '-' || x.isDigit) = false) : c ≠ x := by
    rintro rfl
    exact absurd (h.symm.trans hx) (by decide)
  refine ⟨?_, ?_, ne _ (by decide)⟩
  · simp [isSpace, ne ' ' (by decide), ne '\t' (by decide), ne '\n' (by decide),
      ne '\r' (by decide)]
  · simp [mark?, ne '[' (by decide), ne ']' (by decide), ne '{' (by decide), ne '}' (by decide),
      ne ',' (by decide), ne ':' (by decide)]

theorem tokens?_number (n : Int) {rest : List Char} (stops : Stops rest) :
    tokens? ((Text.showInteger n).toList ++ rest) =
      (tokens? rest).map (.leaf (.number (numeralOf n)) :: ·) := by
  have spelled := numeral?_showInteger n
  obtain ⟨c, r, h, first, others⟩ := exists_showInteger n
  obtain ⟨noSpace, noMark, noQuote⟩ := plain_of_numeral first
  obtain ⟨taken, left⟩ := takeWhile_exact others fun x hx => (stops x hx).1
  rw [h] at spelled ⊢
  rw [List.cons_append, tokens?, noSpace, if_neg Bool.false_ne_true, noMark]
  dsimp only
  rw [if_neg noQuote, if_pos first, taken, left, spelled]

/-- A leaf that is spelled with letters. -/
theorem tokens?_word {c : Char} {w : List Char} {s : Scalar} (noSpace : isSpace c = false)
    (noMark : mark? c = none) (noQuote : c ≠ '"') (noNumeral : ¬ (c = '-' || c.isDigit) = true)
    (letters : w.all Char.isAlpha = true) (word : word? (c :: w) = some s) {rest : List Char}
    (stops : Stops rest) : tokens? (c :: w ++ rest) = (tokens? rest).map (.leaf s :: ·) := by
  obtain ⟨taken, left⟩ := takeWhile_exact (List.all_eq_true.mp letters) fun x hx => (stops x hx).2
  rw [List.cons_append, tokens?, noSpace, if_neg Bool.false_ne_true, noMark]
  dsimp only
  rw [if_neg noQuote, if_neg noNumeral, taken, left, word]

end Json
end OrderTrials
