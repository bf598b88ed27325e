import GraphClient.Proofs.Value.Parts
import GraphClient.Query.Literal
import Mathlib.Data.List.Infix

/-!
# Reading literals back

A reader of literals.  It takes one literal off the front of a text and returns its value
with the text that follows.

**Pieces.**  Every piece is read by a function that returns what it read and what is left:
a text in front of a separator (`readUpTo`), a quoted text without its escapes
(`readQuoted`), an integer (`readInteger`), and parts with commas between them up to a
closing bracket (`readList`).  Each undoes the writing of its piece, whatever follows.

**Quoted texts.**  `Spells` is the grammar of what stands between quotes, and the writer of
literals spells every text (`spells_escapeLiteral`).

**Literals.**  The first character of a literal says what follows.  The number that
`readValue` recurses on bounds how deep arrays and maps may be nested; the length of the
text is always enough.

**Keys.**  A key is written into a map as it is, so the reader finds its end only if the
key holds no colon with a blank behind it, and the end of the map only if the key does not
begin with the closing brace (`LegibleKey`).
-/

namespace GraphClient

/-- What is read off the front of a text, with the text that is left. -/
abbrev Reader (α : Type) := List Char → Option (α × List Char)

section Pieces

/-- Reads a given text. -/
def readWord {α : Type} (word : List Char) (value : α) : Reader α := fun text =>
  (text.dropPrefix? word).map fun rest => (value, rest)

/-- Reads up to the first separator, and past it. -/
def readUpTo (separator : List Char) : Reader (List Char)
  | [] => none
  | c :: text =>
      match (c :: text).dropPrefix? separator with
      | some rest => some ([], rest)
      | none => (readUpTo separator text).map fun read => (c :: read.1, read.2)

/-- The characters between quotes spell a text: a quote or a backslash stands behind a backslash. -/
inductive Spells : List Char → List Char → Prop
  | done : Spells [] []
  | plain {c : Char} {inner text : List Char} :
      c ≠ '"' →
      c ≠ '\\' →
      Spells inner text →
      Spells (c :: inner) (c :: text)
  | escaped (c : Char) {inner text : List Char} :
      Spells inner text →
      Spells ('\\' :: c :: inner) (c :: text)

/-- Reads the rest of a quoted text, taking the character behind a backslash as it is. -/
def readQuoted : Reader (List Char)
  | [] => none
  | ['\\'] => none
  | '\\' :: c :: text => (readQuoted text).map fun read => (c :: read.1, read.2)
  | c :: text =>
      if c = '"' then some ([], text)
      else (readQuoted text).map fun read => (c :: read.1, read.2)

def readNatural : Reader Nat := fun text =>
  match text.takeWhile Char.isDigit with
  | [] => none
  | c :: digits => some (Nat.ofDigitChars 10 (c :: digits) 0, text.dropWhile Char.isDigit)

def readInteger : Reader Int
  | [] => none
  | c :: text =>
      if c = '-' then (readNatural text).map fun read => (-(read.1 : Int), read.2)
      else (readNatural (c :: text)).map fun read => ((read.1 : Int), read.2)

/-- Reads a name, a separator and what stands for the name. -/
def readNamed
    {α : Type}
    (separator : List Char)
    (readContent : Reader α) :
    Reader (String × α) := fun text =>
  (readUpTo separator text).bind fun named =>
    (readContent named.2).map fun content => ((String.ofList named.1, content.1), content.2)

/-- Reads parts with a comma and a blank between them, and the bracket behind the last. -/
def readParts
    {α : Type}
    (close : Char)
    (readPart : Reader α) :
    Nat → Reader (List α)
  | 0, _ => none
  | bound + 1, text =>
      (readPart text).bind fun part =>
        match part.2.dropPrefix? [',', ' '] with
        | some rest =>
            (readParts close readPart bound rest).map fun read => (part.1 :: read.1, read.2)
        | none => (part.2.dropPrefix? [close]).map fun rest => ([part.1], rest)

/-- Reads what stands behind an opening bracket, and the closing one. -/
def readList
    {α : Type}
    (close : Char)
    (readPart : Reader α) :
    Reader (List α) := fun text =>
  match text.dropPrefix? [close] with
  | some rest => some ([], rest)
  | none => readParts close readPart text.length text

end Pieces

/-- Reads a literal in which arrays and maps are nested less deep than the bound. -/
def readValue : Nat → Reader Value
  | depth + 1, c :: text =>
      if c = 'n' then readWord ['u', 'l', 'l'] .null text
      else if c = 't' then readWord ['r', 'u', 'e'] (.boolean true) text
      else if c = 'f' then readWord ['a', 'l', 's', 'e'] (.boolean false) text
      else if c = '"' then
        (readQuoted text).map fun read => (.string (String.ofList read.1), read.2)
      else if c = '[' then
        (readList ']' (readValue depth) text).map fun read => (.array read.1, read.2)
      else if c = '\x7b' then
        (readList '\x7d' (readNamed [':', ' '] (readValue depth)) text).map fun read =>
          (.map read.1, read.2)
      else (readInteger (c :: text)).map fun read => (.integer read.1, read.2)
  | _, _ => none

/-- Reads a literal.  It cannot be nested deeper than the text is long. -/
def readLiteral : Reader Value := fun text => readValue text.length text

/-- A text does not go on with a digit. -/
def EndsNumber (text : List Char) : Prop := ∀ c ∈ text.head?, c.isDigit = false

/-- The end of a key and the end of the map can be told from the key. -/
def LegibleKey (key : String) : Prop :=
  ¬ [':', ' '] <:+: key.toList ∧ key.toList.head? ≠ some '\x7d'

instance (key : String) : Decidable (LegibleKey key) := by
  unfold LegibleKey
  infer_instance

/-- A value has a literal that can be read, apart from its parts. -/
def Value.Legible : Value → Prop
  | .null | .boolean _ | .integer _ | .string _ | .array _ => True
  | .map entries => ∀ key ∈ Fields.names entries, LegibleKey key
  | _ => False

section Undoing

variable {α : Type} {rest : List Char}

theorem dropPrefix?_append (word : List Char) : (word ++ rest).dropPrefix? word = some rest :=
  List.dropPrefix?_eq_some_iff.mpr ⟨word, rfl, beq_self_eq_true _⟩

theorem dropPrefix?_eq_none
    {word text : List Char}
    (hWord : ¬ word <+: text) :
    text.dropPrefix? word = none := by
  cases hDrop : text.dropPrefix? word with
  | none => rfl
  | some left =>
      obtain ⟨same, hText, hSame⟩ := List.dropPrefix?_eq_some_iff.mp hDrop
      exact absurd ⟨left, by rw [hText, eq_of_beq hSame]⟩ hWord

theorem readWord_append (word : List Char) (value : α) :
    readWord word value (word ++ rest) = some (value, rest) := by
  rw [readWord, dropPrefix?_append, Option.map_some]

/--
A separator whose first character is not in the rest of it does not begin inside a text in
front of it, unless it stands in that text.
-/
theorem not_prefix_append
    {first : Char}
    {others back : List Char}
    (rest : List Char)
    (hFirst : first ∉ others)
    (hBack : back ≠ [])
    (hFree : ¬ first :: others <:+: back) :
    ¬ first :: others <+: back ++ (first :: others ++ rest) := by
  intro hPrefix
  rcases List.prefix_or_prefix_of_prefix hPrefix (List.prefix_append back _) with hIn | hOver
  · exact hFree hIn.isInfix
  · -- The text ends within the separator, which would have to begin again in what is left of it.
    obtain ⟨c, inner, rfl⟩ := List.exists_cons_of_ne_nil hBack
    obtain ⟨rfl, tail, rfl⟩ := List.cons_prefix_cons.mp hOver
    rw [List.cons_append, List.cons_prefix_cons] at hPrefix
    have hTail := (List.prefix_append_right_inj inner).mp hPrefix.2
    cases tail with
    | nil => exact hFree (by rw [List.append_nil])
    | cons next tail =>
        obtain ⟨rfl, -⟩ := List.cons_prefix_cons.mp hTail
        exact hFirst (List.mem_append_right inner List.mem_cons_self)

/-- A text without the separator in it is read up to the separator. -/
theorem readUpTo_append
    {first : Char}
    {others text : List Char}
    (hFirst : first ∉ others)
    (hFree : ¬ first :: others <:+: text) :
    readUpTo (first :: others) (text ++ (first :: others ++ rest)) = some (text, rest) := by
  induction text with
  | nil =>
      rw [List.nil_append, List.cons_append, readUpTo, ← List.cons_append, dropPrefix?_append]
  | cons c text ih =>
      have hHere := not_prefix_append rest hFirst (List.cons_ne_nil c text) hFree
      have hText : ¬ first :: others <:+: text :=
        fun hIn => hFree (hIn.trans (List.suffix_cons c text).isInfix)
      rw [List.cons_append] at hHere ⊢
      rw [readUpTo, dropPrefix?_eq_none hHere, ih hText, Option.map_some]

theorem spells_escapeLiteral (text : List Char) : Spells (text.flatMap escapeLiteral) text := by
  induction text with
  | nil => exact .done
  | cons c text ih =>
      rw [List.flatMap_cons, escapeLiteral]
      split
      · exact .escaped c ih
      · next hPlain =>
          obtain ⟨hQuote, hBackslash⟩ := not_or.mp hPlain
          exact .plain hQuote hBackslash ih

/-- What is spelled is read up to the quote behind it. -/
theorem readQuoted_of_spells
    {inner text : List Char}
    (hSpells : Spells inner text) :
    readQuoted (inner ++ '"' :: rest) = some (text, rest) := by
  induction hSpells with
  | done => rfl
  | @plain c inner text hQuote hBackslash _ ih =>
      rw [List.cons_append, readQuoted, if_neg hQuote, ih, Option.map_some]
      all_goals
        intros
        contradiction
  | @escaped c inner text _ ih =>
      change ((readQuoted (inner ++ '"' :: rest)).map fun read => (c :: read.1, read.2)) = _
      rw [ih, Option.map_some]

/-- Escapes are undone, so no text ends its own quotes. -/
theorem readQuoted_escaped (text : List Char) :
    readQuoted (text.flatMap escapeLiteral ++ '"' :: rest) = some (text, rest) :=
  readQuoted_of_spells (spells_escapeLiteral text)

theorem isDigit_of_mem_toDigits
    {n : Nat}
    {c : Char}
    (hMem : c ∈ Nat.toDigits 10 n) :
    c.isDigit = true :=
  Nat.isDigit_of_mem_toDigits (by decide) (by decide) hMem

theorem exists_toDigits_eq_cons (n : Nat) :
    ∃ c digits, Nat.toDigits 10 n = c :: digits ∧ c.isDigit = true := by
  obtain ⟨c, digits, hDigits⟩ := List.exists_cons_of_ne_nil (Nat.toDigits_ne_nil (n := n) (b := 10))
  exact ⟨c, digits, hDigits, isDigit_of_mem_toDigits (hDigits ▸ List.mem_cons_self)⟩

theorem endsNumber_cons
    {c : Char}
    {left : List Char}
    (hDigit : c.isDigit = false) :
    EndsNumber (c :: left) := by
  rintro first hFirst
  obtain rfl := Option.mem_some_iff.mp hFirst
  exact hDigit

/-- A text that does not go on with a digit has none of it read as digits. -/
theorem readNatural_toDigits
    (n : Nat)
    (hRest : EndsNumber rest) :
    readNatural (Nat.toDigits 10 n ++ rest) = some (n, rest) := by
  have hDigits : ∀ c ∈ Nat.toDigits 10 n, c.isDigit = true := fun c => isDigit_of_mem_toDigits
  have hTaken : rest.takeWhile Char.isDigit = [] := by
    cases rest with
    | nil => rfl
    | cons c rest => exact List.takeWhile_cons_of_neg (by simp [hRest c rfl])
  have hLeft : rest.dropWhile Char.isDigit = rest := by
    cases rest with
    | nil => rfl
    | cons c rest => exact List.dropWhile_cons_of_neg (by simp [hRest c rfl])
  rw [readNatural, List.takeWhile_append_of_pos hDigits, List.dropWhile_append_of_pos hDigits,
    hTaken, hLeft, List.append_nil]
  obtain ⟨c, digits, hSome, -⟩ := exists_toDigits_eq_cons n
  rw [hSome]
  dsimp only
  rw [← hSome, Nat.ofDigitChars_ten_toDigits]

/-- The digits of an integer, with a sign if it is negative. -/
theorem integerDigits_cases (n : Int) :
    (∃ k : Nat, n = k ∧ integerDigits n = Nat.toDigits 10 k) ∨
    (∃ k : Nat, n = -(k : Int) ∧ integerDigits n = '-' :: Nat.toDigits 10 k) := by
  rw [integerDigits, Int.toString_eq_repr, Int.repr_eq_if]
  split
  · next hNonneg =>
      refine Or.inl ⟨n.toNat, (Int.toNat_of_nonneg hNonneg).symm, ?_⟩
      rw [Nat.repr_eq_ofList_toDigits, String.toList_ofList]
  · next hNegative =>
      refine Or.inr ⟨(-n).toNat, by omega, ?_⟩
      rw [String.toList_append, Nat.repr_eq_ofList_toDigits, String.toList_ofList,
        String.toList_ofList]
      rfl

/-- An integer begins with a sign or a digit. -/
theorem exists_integerDigits_eq_cons (n : Int) :
    ∃ c left, integerDigits n = c :: left ∧ (c = '-' ∨ c.isDigit = true) := by
  rcases integerDigits_cases n with ⟨k, -, hDigits⟩ | ⟨k, -, hDigits⟩
  · obtain ⟨c, left, hSome, hDigit⟩ := exists_toDigits_eq_cons k
    exact ⟨c, left, hDigits.trans hSome, Or.inr hDigit⟩
  · exact ⟨'-', _, hDigits, Or.inl rfl⟩

theorem readInteger_integerDigits
    (n : Int)
    (hRest : EndsNumber rest) :
    readInteger (integerDigits n ++ rest) = some (n, rest) := by
  rcases integerDigits_cases n with ⟨k, rfl, hDigits⟩ | ⟨k, rfl, hDigits⟩
  · obtain ⟨c, digits, hSome, hDigit⟩ := exists_toDigits_eq_cons k
    have hSign : c ≠ '-' := by
      rintro rfl
      exact absurd hDigit (by decide)
    have hRead := readNatural_toDigits k hRest
    rw [hSome, List.cons_append] at hRead
    rw [hDigits, hSome, List.cons_append, readInteger, if_neg hSign, hRead, Option.map_some]
  · rw [hDigits, List.cons_append, readInteger, if_pos rfl, readNatural_toDigits k hRest,
      Option.map_some]

theorem readNamed_append
    {first : Char}
    {others content : List Char}
    {readContent : Reader α}
    {value : α}
    {name : String}
    (hFirst : first ∉ others)
    (hFree : ¬ first :: others <:+: name.toList)
    (hContent : readContent (content ++ rest) = some (value, rest)) :
    readNamed (first :: others) readContent
        (name.toList ++ (first :: others ++ (content ++ rest))) =
      some ((name, value), rest) := by
  rw [readNamed, readUpTo_append hFirst hFree, Option.bind_some, hContent, Option.map_some,
    String.ofList_toList]

section Lists

variable {close : Char} {readPart : Reader α} {write : α → List Char} {items : List α}

theorem commaSeparated_cons_cons (part next : List Char) (parts : List (List Char)) :
    commaSeparated (part :: next :: parts) =
      part ++ ([',', ' '] ++ commaSeparated (next :: parts)) := by
  rw [commaSeparated, List.intercalate_cons_cons, List.append_assoc, commaSeparated]

theorem prefix_commaSeparated (part : List Char) (parts : List (List Char)) :
    part <+: commaSeparated (part :: parts) := by
  cases parts with
  | nil => rw [commaSeparated, List.intercalate_singleton]
  | cons next parts => exact commaSeparated_cons_cons part next parts ▸ List.prefix_append part _

theorem dropPrefix?_close : (close :: rest).dropPrefix? [close] = some rest :=
  dropPrefix?_append [close]

/-- A part with the bracket behind it is the last. -/
theorem readParts_last
    {text : List Char}
    {part : α}
    (bound : Nat)
    (hClose : close ≠ ',')
    (hPart : readPart text = some (part, close :: rest)) :
    readParts close readPart (bound + 1) text = some ([part], rest) := by
  have hComma : ¬ [',', ' '] <+: close :: rest :=
    fun hPrefix => hClose (List.cons_prefix_cons.mp hPrefix).1.symm
  rw [readParts, hPart, Option.bind_some]
  simp only [dropPrefix?_eq_none hComma, dropPrefix?_close, Option.map_some]

/-- Behind a part with a comma and a blank come the other parts. -/
theorem readParts_next
    {text : List Char}
    {part : α}
    (bound : Nat)
    (hPart : readPart text = some (part, ',' :: ' ' :: rest)) :
    readParts close readPart (bound + 1) text =
      (readParts close readPart bound rest).map fun read => (part :: read.1, read.2) := by
  have hComma : (',' :: ' ' :: rest).dropPrefix? [',', ' '] = some rest :=
    dropPrefix?_append [',', ' ']
  rw [readParts, hPart, Option.bind_some]
  simp only [hComma]

/-- Parts are read back one by one if each is read in front of a comma and of the bracket. -/
theorem readParts_commaSeparated
    (hSome : items ≠ [])
    (hClose : close ≠ ',')
    (hRead : ∀ item ∈ items, ∀ c left, c = ',' ∨ c = close →
      readPart (write item ++ c :: left) = some (item, c :: left))
    {bound : Nat}
    (hBound : items.length ≤ bound) :
    readParts close readPart bound (commaSeparated (items.map write) ++ close :: rest) =
      some (items, rest) := by
  induction items generalizing bound with
  | nil => exact absurd rfl hSome
  | cons item others ih =>
      obtain ⟨hItem, hOthers⟩ := List.forall_mem_cons.mp hRead
      cases bound with
      | zero => exact absurd hBound (Nat.not_succ_le_zero _)
      | succ bound =>
          cases others with
          | nil =>
              rw [List.map_singleton, commaSeparated, List.intercalate_singleton]
              exact readParts_last bound hClose (hItem close rest (Or.inr rfl))
          | cons next others =>
              have hRest := ih (List.cons_ne_nil _ _) hOthers (Nat.le_of_succ_le_succ hBound)
              rw [List.map_cons, List.map_cons, commaSeparated_cons_cons, List.append_assoc,
                List.append_assoc, List.cons_append, List.cons_append, List.nil_append,
                readParts_next bound (hItem ',' _ (Or.inl rfl)), ← List.map_cons, hRest,
                Option.map_some]

/-- No part is longer than the text that the parts make. -/
theorem length_le_of_mem
    {part : List Char}
    {parts : List (List Char)}
    (hPart : part ∈ parts) :
    part.length ≤ (commaSeparated parts).length := by
  induction parts with
  | nil => exact absurd hPart List.not_mem_nil
  | cons first others ih =>
      rcases List.mem_cons.mp hPart with rfl | hPart
      · exact (prefix_commaSeparated part others).length_le
      · obtain ⟨next, others, rfl⟩ := List.exists_cons_of_ne_nil (List.ne_nil_of_mem hPart)
        have hLater := ih hPart
        rw [commaSeparated_cons_cons, List.length_append, List.length_append]
        omega

/-- Parts that are not empty are no more than the characters of the text that they make. -/
theorem length_le_length_commaSeparated
    (write : α → List Char)
    (hWrite : ∀ item ∈ items, write item ≠ []) :
    items.length ≤ (commaSeparated (items.map write)).length := by
  induction items with
  | nil => exact Nat.zero_le _
  | cons item others ih =>
      obtain ⟨hItem, hOthers⟩ := List.forall_mem_cons.mp hWrite
      have hPart := List.length_pos_iff.mpr hItem
      cases others with
      | nil =>
          rw [List.map_singleton, commaSeparated, List.intercalate_singleton]
          exact hPart
      | cons next others =>
          have hRest := ih hOthers
          rw [List.map_cons, List.map_cons, commaSeparated_cons_cons, ← List.map_cons]
          simp only [List.length_cons, List.length_append, List.length_nil] at hRest ⊢
          omega

theorem readList_close : readList close readPart (close :: rest) = some ([], rest) := by
  rw [readList, dropPrefix?_close]

theorem readList_of_not_prefix_close
    {text : List Char}
    (hOpen : ¬ [close] <+: text) :
    readList close readPart text = readParts close readPart text.length text := by
  rw [readList, dropPrefix?_eq_none hOpen]

/-- A list between brackets is read back if no part begins with the closing bracket. -/
theorem readList_commaSeparated
    (hClose : close ≠ ',')
    (hWrite : ∀ item ∈ items, ∃ c left, write item = c :: left ∧ c ≠ close)
    (hRead : ∀ item ∈ items, ∀ c left, c = ',' ∨ c = close →
      readPart (write item ++ c :: left) = some (item, c :: left)) :
    readList close readPart (commaSeparated (items.map write) ++ close :: rest) =
      some (items, rest) := by
  cases items with
  | nil => exact readList_close
  | cons item others =>
      obtain ⟨c, left, hItem, hOpen⟩ := hWrite item List.mem_cons_self
      obtain ⟨tail, hText⟩ := prefix_commaSeparated (write item) (others.map write)
      have hFirst : ¬ [close] <+: commaSeparated ((item :: others).map write) ++ close :: rest := by
        rw [List.map_cons, ← hText, hItem, List.cons_append, List.cons_append]
        exact fun hPrefix => hOpen (List.cons_prefix_cons.mp hPrefix).1.symm
      have hLength := length_le_length_commaSeparated write fun part hPart => by
        obtain ⟨c, left, hPart, -⟩ := hWrite part hPart
        exact hPart ▸ List.cons_ne_nil c left
      rw [readList_of_not_prefix_close hFirst]
      refine readParts_commaSeparated (List.cons_ne_nil item others) hClose hRead ?_
      exact hLength.trans (List.length_append ▸ Nat.le_add_right _ _)

end Lists

theorem exists_named_eq_cons
    {key : String}
    (content : List Char)
    (hKey : LegibleKey key) :
    ∃ c left, named key content = c :: left ∧ c ≠ '\x7d' := by
  cases hText : key.toList with
  | nil => exact ⟨':', ' ' :: content, by rw [named, hText, List.nil_append], by decide⟩
  | cons c text =>
      refine ⟨c, text ++ ':' :: ' ' :: content, by rw [named, hText, List.cons_append], ?_⟩
      rintro rfl
      exact hKey.2 (by rw [hText, List.head?_cons])

theorem readNamed_named
    {key : String}
    {content : List Char}
    {readContent : Reader α}
    {value : α}
    (hKey : LegibleKey key)
    (hContent : readContent (content ++ rest) = some (value, rest)) :
    readNamed [':', ' '] readContent (named key content ++ rest) = some ((key, value), rest) := by
  rw [named, List.append_assoc]
  exact readNamed_append (by decide) hKey.1 hContent

end Undoing

namespace Value

theorem literal_null : literal .null = ['n', 'u', 'l', 'l'] := by
  change "null".toList = _
  decide

theorem literal_false : literal (.boolean false) = ['f', 'a', 'l', 's', 'e'] := by
  change "false".toList = _
  decide

theorem literal_true : literal (.boolean true) = ['t', 'r', 'u', 'e'] := by
  change "true".toList = _
  decide

theorem literal_integer (n : Int) : literal (.integer n) = integerDigits n := rfl

theorem literal_string (text : String) :
    literal (.string text) = '"' :: (text.toList.flatMap escapeLiteral ++ ['"']) := rfl

theorem literalItems_eq_map (items : List Value) : literalItems items = items.map literal := by
  induction items with
  | nil => rfl
  | cons item others ih => rw [literalItems, ih, List.map_cons]

theorem literalEntries_eq_map (entries : List (String × Value)) :
    literalEntries entries = entries.map fun entry => named entry.1 (literal entry.2) := by
  induction entries with
  | nil => rfl
  | cons entry others ih => rw [literalEntries, ih, List.map_cons]

theorem literal_array (items : List Value) :
    literal (.array items) = '[' :: (commaSeparated (items.map literal) ++ [']']) := by
  rw [← literalItems_eq_map]
  rfl

theorem literal_map (entries : List (String × Value)) :
    literal (.map entries) =
      '\x7b' ::
        (commaSeparated (entries.map fun entry => named entry.1 (literal entry.2)) ++
          ['\x7d']) := by
  rw [← literalEntries_eq_map]
  rfl

/-- No literal begins with a closing bracket. -/
theorem exists_literal_eq_cons
    {value : Value}
    (hLegible : value.Legible) :
    ∃ c left, literal value = c :: left ∧ c ≠ ']' := by
  cases value with
  | null => exact ⟨_, _, literal_null, by decide⟩
  | boolean value =>
      cases value with
      | false => exact ⟨_, _, literal_false, by decide⟩
      | true => exact ⟨_, _, literal_true, by decide⟩
  | integer n =>
      obtain ⟨c, left, hDigits, hLead⟩ := exists_integerDigits_eq_cons n
      refine ⟨c, left, hDigits, ?_⟩
      rintro rfl
      exact absurd hLead (by decide)
  | string text => exact ⟨_, _, rfl, by decide⟩
  | array items => exact ⟨_, _, rfl, by decide⟩
  | map entries => exact ⟨_, _, rfl, by decide⟩
  | _ => exact hLegible.elim

theorem readValue_quote (depth : Nat) (text : List Char) :
    readValue (depth + 1) ('"' :: text) =
      (readQuoted text).map fun read => (.string (String.ofList read.1), read.2) := rfl

theorem readValue_bracket (depth : Nat) (text : List Char) :
    readValue (depth + 1) ('[' :: text) =
      (readList ']' (readValue depth) text).map fun read => (.array read.1, read.2) := rfl

theorem readValue_brace (depth : Nat) (text : List Char) :
    readValue (depth + 1) ('\x7b' :: text) =
      (readList '\x7d' (readNamed [':', ' '] (readValue depth)) text).map fun read =>
        (.map read.1, read.2) := rfl

/-- What begins like a number is read as an integer. -/
theorem readValue_of_lead
    {depth : Nat}
    {c : Char}
    {text : List Char}
    (hLead : c = '-' ∨ c.isDigit = true) :
    readValue (depth + 1) (c :: text) =
      (readInteger (c :: text)).map fun read => (.integer read.1, read.2) := by
  have hNe : ∀ other, ¬ (other = '-' ∨ other.isDigit = true) → c ≠ other := by
    rintro other hOther rfl
    exact hOther hLead
  rw [readValue, if_neg (hNe 'n' (by decide)), if_neg (hNe 't' (by decide)),
    if_neg (hNe 'f' (by decide)), if_neg (hNe '"' (by decide)), if_neg (hNe '[' (by decide)),
    if_neg (hNe '\x7b' (by decide))]

/-- Legible literals up to a length are read off the front of a text. -/
def ReadsLiterals (length : Nat) : Prop :=
  ∀ value : Value, value.Throughout Legible → (literal value).length ≤ length →
    ∀ rest, EndsNumber rest → readValue length (literal value ++ rest) = some (value, rest)

section Nesting

variable {length : Nat} {rest : List Char} (hReads : ReadsLiterals length)

include hReads

theorem readValue_array
    {items : List Value}
    (hItems : ∀ item ∈ items, item.Throughout Legible)
    (hLength : (literal (.array items)).length ≤ length + 1) :
    readValue (length + 1) (literal (.array items) ++ rest) = some (.array items, rest) := by
  rw [literal_array] at hLength ⊢
  have hList : readList ']' (readValue length)
      (commaSeparated (items.map literal) ++ ']' :: rest) = some (items, rest) := by
    refine readList_commaSeparated (by decide) (fun item hItem => ?_)
      fun item hItem c left hNext => hReads item (hItems item hItem) ?_ _ (endsNumber_cons ?_)
    · exact exists_literal_eq_cons (throughout_iff.mp (hItems item hItem)).1
    · have hPart := length_le_of_mem (List.mem_map_of_mem (f := literal) hItem)
      simp only [List.length_cons, List.length_append, List.length_nil] at hLength
      omega
    · rcases hNext with rfl | rfl <;> decide
  rw [List.cons_append, List.append_assoc, List.singleton_append, readValue_bracket, hList,
    Option.map_some]

theorem readValue_map
    {entries : List (String × Value)}
    (hKeys : ∀ key ∈ Fields.names entries, LegibleKey key)
    (hValues : ∀ entry ∈ entries, entry.2.Throughout Legible)
    (hLength : (literal (.map entries)).length ≤ length + 1) :
    readValue (length + 1) (literal (.map entries) ++ rest) = some (.map entries, rest) := by
  let write (entry : String × Value) := named entry.1 (literal entry.2)
  have hEntryKey : ∀ entry ∈ entries, LegibleKey entry.1 := List.forall_mem_map.mp hKeys
  rw [literal_map] at hLength ⊢
  have hList : readList '\x7d' (readNamed [':', ' '] (readValue length))
      (commaSeparated (entries.map write) ++ '\x7d' :: rest) = some (entries, rest) := by
    refine readList_commaSeparated (by decide) (fun entry hEntry => ?_)
      fun entry hEntry c left hNext => readNamed_named (hEntryKey entry hEntry)
        (hReads entry.2 (hValues entry hEntry) ?_ _ (endsNumber_cons ?_))
    · exact exists_named_eq_cons _ (hEntryKey entry hEntry)
    · have hPart := length_le_of_mem (List.mem_map_of_mem (f := write) hEntry)
      simp only [write, named, List.length_cons, List.length_append, List.length_nil]
        at hLength hPart
      omega
    · rcases hNext with rfl | rfl <;> decide
  rw [List.cons_append, List.append_assoc, List.singleton_append, readValue_brace, hList,
    Option.map_some]

end Nesting

/-- By induction on the length: what is nested in a literal is shorter than the literal. -/
theorem readsLiterals (length : Nat) : ReadsLiterals length := by
  induction length with
  | zero =>
      intro value hLegible hLength
      obtain ⟨c, left, hLiteral, -⟩ := exists_literal_eq_cons (throughout_iff.mp hLegible).1
      rw [hLiteral] at hLength
      exact absurd hLength (Nat.not_succ_le_zero _)
  | succ length ih =>
      intro value hLegible hLength rest hRest
      cases value with
      | null =>
          rw [literal_null]
          exact readWord_append ['u', 'l', 'l'] _
      | boolean value =>
          cases value with
          | false =>
              rw [literal_false]
              exact readWord_append ['a', 'l', 's', 'e'] _
          | true =>
              rw [literal_true]
              exact readWord_append ['r', 'u', 'e'] _
      | integer n =>
          obtain ⟨c, left, hDigits, hLead⟩ := exists_integerDigits_eq_cons n
          have hRead := readInteger_integerDigits n hRest
          rw [hDigits, List.cons_append] at hRead
          rw [literal_integer, hDigits, List.cons_append, readValue_of_lead hLead, hRead,
            Option.map_some]
      | string text =>
          rw [literal_string, List.cons_append, List.append_assoc, List.singleton_append,
            readValue_quote, readQuoted_escaped, Option.map_some, String.ofList_toList]
      | array items => exact readValue_array ih (throughout_array.mp hLegible).2 hLength
      | map entries =>
          obtain ⟨hKeys, hValues⟩ := throughout_map.mp hLegible
          exact readValue_map ih hKeys hValues hLength
      | _ => exact (throughout_iff.mp hLegible).1.elim

/--
A legible literal is read back off the front of any text in which it does not run into a
digit behind it.
-/
theorem readLiteral_literal
    {value : Value}
    {rest : List Char}
    (hLegible : value.Throughout Legible)
    (hRest : EndsNumber rest) :
    readLiteral (literal value ++ rest) = some (value, rest) :=
  readsLiterals _ value hLegible (List.length_append ▸ Nat.le_add_right _ _) rest hRest

end Value

end GraphClient
