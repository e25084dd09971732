import Mathlib.Data.Option.Basic
import MockApi.Json.Printer
import MockApi.Json.Reader
import MockApi.Proofs.Text.Parts

/-!
# The tokens of a printed value

A value that is printed over several lines is cut into the tokens it was made of, whatever they are followed by
(`scanFrom_pretty`). Only numbers may change on the way: what is read is the number that their text stands for
(`reread`), if it stands for any.
-/

namespace MockApi.Json

/-- The walk over the rest of a text, between two tokens. -/
def scanFrom (found : List Token) (s : List Char) : Option (List Token) :=
  (s.foldlM Scan.step ⟨found, .between⟩).bind Scan.finish

variable {found : List Token} {s rest : List Char} {c : Char}

theorem scanFrom_nil : scanFrom found [] = some found.reverse := rfl

theorem scanFrom_blank (blank : isBlank c) : scanFrom found (c :: rest) = scanFrom found rest := by
  simp only [isBlank, Bool.or_eq_true, beq_iff_eq] at blank
  rcases blank with ((rfl | rfl) | rfl) | rfl <;> rfl

theorem scanFrom_openArray : scanFrom found ("[".toList ++ rest) = scanFrom (.openArray :: found) rest := rfl

theorem scanFrom_closeArray : scanFrom found ("]".toList ++ rest) = scanFrom (.closeArray :: found) rest := rfl

theorem scanFrom_openObject : scanFrom found ("\x7b".toList ++ rest) = scanFrom (.openObject :: found) rest := rfl

theorem scanFrom_closeObject : scanFrom found ("\x7d".toList ++ rest) = scanFrom (.closeObject :: found) rest := rfl

theorem scanFrom_colon : scanFrom found (": ".toList ++ rest) = scanFrom (.colon :: found) rest := rfl

theorem scanFrom_blanks {blanks : List Char} (blank : ∀ c ∈ blanks, isBlank c) :
    scanFrom found (blanks ++ rest) = scanFrom found rest := by
  induction blanks with
  | nil => rfl
  | cons c blanks ih =>
    obtain ⟨blank, behind⟩ := List.forall_mem_cons.mp blank
    rw [List.cons_append, scanFrom_blank blank, ih behind]

/-! ### Quoted texts -/

theorem hexValue?_hexDigit : ∀ n < 16, hexValue? (hexDigit n) = some n := by decide

/-- The two digits that a control character is escaped with are read as its number. -/
theorem foldlM_hexDigits (found : List Token) {high low : Nat} (highSmall : high < 16) (lowSmall : low < 16) (soFar : List Char) :
    [hexDigit high, hexDigit low].foldlM Scan.step ⟨found, .hex soFar 2 0 none⟩ =
      some ⟨found, .quotes (Char.ofNat (high * 16 + low) :: soFar)⟩ := by
  have first : Scan.step ⟨found, .hex soFar 2 0 none⟩ (hexDigit high) = some ⟨found, .hex soFar 1 high none⟩ := by
    simp [Scan.step, stepToken, hexValue?_hexDigit high highSmall]
  have char : unitPosition soFar (high * 16 + low) none = some (.quotes (Char.ofNat (high * 16 + low) :: soFar)) := by
    rw [unitPosition, if_neg (by omega), if_neg (by omega)]
  have second : Scan.step ⟨found, .hex soFar 1 high none⟩ (hexDigit low) =
      some ⟨found, .quotes (Char.ofNat (high * 16 + low) :: soFar)⟩ := by
    simp [Scan.step, stepToken, hexValue?_hexDigit low lowSmall, char]
  rw [List.foldlM_cons, first, Option.bind_eq_bind, Option.bind_some, List.foldlM_cons, second]
  rfl

/-- What is escaped is read back, a character at a time. -/
theorem foldlM_escapeChar (soFar : List Char) (c : Char) :
    (escapeChar c).foldlM Scan.step ⟨found, .quotes soFar⟩ = some ⟨found, .quotes (c :: soFar)⟩ := by
  have named {n : Nat} (code : c.toNat = n) : Char.ofNat n = c := code ▸ Char.ofNat_toNat c
  unfold escapeChar
  split
  iterate 5 rfl
  rename_i quote backslash _ _ _
  split
  · rename_i code
    rw [← named code]
    rfl
  split
  · rename_i code
    rw [← named code]
    rfl
  split
  · rename_i control
    have whole : c.toNat / 16 * 16 + c.toNat % 16 = c.toNat := by omega
    have digits := foldlM_hexDigits found (by omega : c.toNat / 16 < 16) (by omega : c.toNat % 16 < 16) soFar
    rw [whole, Char.ofNat_toNat] at digits
    exact digits
  · rename_i printable
    have kept : stepToken (.quotes soFar) c = some ([], .quotes (c :: soFar)) := by
      rw [stepToken, if_neg quote, if_neg backslash, if_neg printable]
    rw [List.foldlM_cons, Scan.step, kept]
    rfl

theorem foldlM_escaped (s soFar : List Char) :
    (s.flatMap escapeChar).foldlM Scan.step ⟨found, .quotes soFar⟩ =
      some ⟨found, .quotes (s.reverse ++ soFar)⟩ := by
  induction s generalizing soFar with
  | nil => rfl
  | cons c s ih =>
    rw [List.flatMap_cons, List.foldlM_append, foldlM_escapeChar]
    rw [Option.bind_eq_bind, Option.bind_some, ih]
    simp

theorem scanFrom_quoted (name : String) :
    scanFrom found ((quoted name).toList ++ rest) = scanFrom (.text name :: found) rest := by
  have written : (quoted name).toList ++ rest = '"' :: (name.toList.flatMap escapeChar ++ '"' :: rest) := by
    simp [quoted]
  have opened : Scan.step ⟨found, .between⟩ '"' = some ⟨found, .quotes []⟩ := rfl
  have closed : Scan.step ⟨found, .quotes name.toList.reverse⟩ '"' = some ⟨.text name :: found, .between⟩ := by
    simp [Scan.step, stepToken]
  rw [written, scanFrom, List.foldlM_cons, opened, Option.bind_eq_bind, Option.bind_some, List.foldlM_append, foldlM_escaped]
  rw [List.append_nil, Option.bind_eq_bind, Option.bind_some, List.foldlM_cons, closed]
  rfl

/-! ### Words and numbers -/

/-- The characters that numbers and words are made of. -/
def isPlain (c : Char) : Bool := c.isAlphanum || c == '-' || c == '+' || c == '.'

/-- A number or a word ends here. -/
def Ends (rest : List Char) : Prop := ∀ c ∈ rest.head?, isPlain c = false

theorem startToken_plain (plain : isPlain c) : startToken c = some ([], .plain [c]) := by
  have other {mark : Char} (unplain : isPlain mark = false) : c ≠ mark := by
    rintro rfl
    rw [unplain] at plain
    cases plain
  have solid : isBlank c = false := by
    simp only [isBlank, Bool.or_eq_false_iff, beq_eq_false_iff_ne]
    exact ⟨⟨⟨other (by decide), other (by decide)⟩, other (by decide)⟩, other (by decide)⟩
  unfold startToken
  split
  iterate 5 cases plain
  rw [if_neg (other (by decide)), if_neg (other (by decide)), solid]
  exact if_pos plain

theorem step_plain (plain : isPlain c) (soFar : List Char) :
    Scan.step ⟨found, .plain soFar⟩ c = some ⟨found, .plain (c :: soFar)⟩ := by
  have longer : stepToken (.plain soFar) c = some ([], .plain (c :: soFar)) := if_pos plain
  rw [Scan.step, longer]
  rfl

theorem foldlM_plain (plain : ∀ c ∈ s, isPlain c) (soFar : List Char) :
    s.foldlM Scan.step ⟨found, .plain soFar⟩ = some ⟨found, .plain (s.reverse ++ soFar)⟩ := by
  induction s generalizing soFar with
  | nil => rfl
  | cons c s ih =>
    obtain ⟨first, plain⟩ := List.forall_mem_cons.mp plain
    rw [List.foldlM_cons, step_plain first, Option.bind_eq_bind, Option.bind_some, ih plain, List.reverse_cons,
      List.append_assoc]
    rfl

/-- Where a word ends, its token is found before the one that begins there. -/
theorem step_end (ends : isPlain c = false) (soFar : List Char) :
    Scan.step ⟨found, .plain soFar⟩ c =
      (plainToken soFar.reverse).bind fun token => Scan.step ⟨token :: found, .between⟩ c := by
  have ended : stepToken (.plain soFar) c = _ := if_neg (ne_true_of_eq_false ends)
  rw [Scan.step, ended]
  cases plainToken soFar.reverse with
  | none => rfl
  | some token =>
    rw [Option.bind_some, Scan.step, stepToken]
    cases startToken c with
    | none => rfl
    | some made =>
      obtain ⟨tokens, next⟩ := made
      simp

theorem scanFrom_plain (inhabited : s ≠ []) (plain : ∀ c ∈ s, isPlain c) (ends : Ends rest) :
    scanFrom found (s ++ rest) = (plainToken s).bind fun token => scanFrom (token :: found) rest := by
  obtain ⟨c, behind, rfl⟩ := List.exists_cons_of_ne_nil inhabited
  obtain ⟨first, plain⟩ := List.forall_mem_cons.mp plain
  have walked : (c :: behind).foldlM Scan.step ⟨found, .between⟩ = some ⟨found, .plain (c :: behind).reverse⟩ := by
    have begun : Scan.step ⟨found, .between⟩ c = some ⟨found, .plain [c]⟩ := by
      rw [Scan.step, stepToken, startToken_plain first]
      rfl
    rw [List.foldlM_cons, begun, Option.bind_eq_bind, Option.bind_some, foldlM_plain plain, List.reverse_cons]
  rw [scanFrom, List.foldlM_append, walked, Option.bind_eq_bind, Option.bind_some]
  cases rest with
  | nil =>
    rw [List.foldlM_nil, Option.pure_def, Option.bind_some, Scan.finish]
    dsimp only
    rw [List.reverse_reverse]
    cases plainToken (c :: behind) <;> rfl
  | cons d rest =>
    rw [List.foldlM_cons, step_end (ends d rfl), List.reverse_reverse]
    cases plainToken (c :: behind) <;> rfl

/-! ### Texts of numbers -/

/-- A text that can be nothing but a number. -/
structure Numeric (s : List Char) : Prop where
  begins : ∃ c ∈ s.head?, c.isDigit ∨ c = '-'
  plain : ∀ c ∈ s, isPlain c

namespace Numeric

theorem append (numeric : Numeric s) (plain : ∀ c ∈ rest, isPlain c) : Numeric (s ++ rest) where
  begins := by
    obtain ⟨c, first, begins⟩ := numeric.begins
    refine ⟨c, ?_, begins⟩
    rw [List.head?_append, Option.mem_def.mp first]
    rfl
  plain := List.forall_mem_append.mpr ⟨numeric.plain, plain⟩

theorem take (numeric : Numeric s) {n : Nat} (positive : 0 < n) : Numeric (s.take n) where
  begins := by
    obtain ⟨m, rfl⟩ := Nat.exists_eq_add_of_lt positive
    obtain ⟨c, first, begins⟩ := numeric.begins
    refine ⟨c, ?_, begins⟩
    cases s with
    | nil => cases first
    | cons _ _ => exact first
  plain c mem := numeric.plain c (List.mem_of_mem_take mem)

theorem negated (plain : ∀ c ∈ s, isPlain c) : Numeric ('-' :: s) where
  begins := ⟨'-', rfl, .inr rfl⟩
  plain := List.forall_mem_cons.mpr ⟨rfl, plain⟩

theorem ne_nil (numeric : Numeric s) : s ≠ [] := by
  rintro rfl
  obtain ⟨c, first, -⟩ := numeric.begins
  cases first

/-- A number is none of the words that stand for other values. -/
theorem plainToken_eq (numeric : Numeric s) : plainToken s = (readNumber s).map fun n => .scalar (.number n) := by
  obtain ⟨c, first, begins⟩ := numeric.begins
  have other {word : String} (letter : word.toList.head?.any (fun c => c.isDigit || c == '-') = false) :
      s ≠ word.toList := by
    rintro rfl
    rw [Option.mem_def.mp first] at letter
    rcases begins with digit | rfl
    · simp [digit] at letter
    · cases letter
  rw [plainToken, if_neg (other (by decide)), if_neg (other (by decide)), if_neg (other (by decide))]

end Numeric

theorem isPlain_of_mem_toDigits {n : Nat} (mem : c ∈ Nat.toDigits 10 n) : isPlain c := by
  have digit : c.isDigit := Nat.isDigit_of_mem_toDigits (by decide) (by decide) mem
  simp [isPlain, Char.isAlphanum, digit]

theorem numeric_toDigits (n : Nat) : Numeric (Nat.toDigits 10 n) where
  begins := by
    obtain ⟨c, rest, same⟩ := List.exists_cons_of_ne_nil (Nat.toDigits_ne_nil (n := n) (b := 10))
    refine ⟨c, same ▸ rfl, .inl ?_⟩
    exact Nat.isDigit_of_mem_toDigits (by decide) (by decide) (same ▸ List.mem_cons_self)
  plain c mem := isPlain_of_mem_toDigits mem

theorem isPlain_of_mem_zeros {n : Nat} (mem : c ∈ (Binary64.zeros n).toList) : isPlain c := by
  rw [Binary64.zeros, String.toList_ofList] at mem
  rw [List.eq_of_mem_replicate mem]
  rfl

theorem numeric_double (x : Binary64.Finite) : Numeric (x.text Binary64.jsonLayout).toList := by
  have signed {body : String} (numeric : Numeric body.toList) :
      Numeric (if x.negative then "-" ++ body else body).toList := by
    split
    · rw [String.toList_append]
      exact .negated numeric.plain
    · exact numeric
  apply signed
  have digits := numeric_toDigits (Binary64.shortest Binary64.jsonLayout.tie x.units).digits
  have nought (rest : String) (plain : ∀ c ∈ rest.toList, isPlain c) : Numeric ("0" ++ rest).toList := by
    rw [String.toList_append]
    exact (numeric_toDigits 0).append plain
  split
  · exact nought ".0" (List.all_eq_true.mp (by decide))
  split
  · split
    · simp only [String.toList_append, String.toList_ofList, List.append_assoc]
      refine digits.append (List.forall_mem_append.mpr ⟨fun c => isPlain_of_mem_zeros, List.all_eq_true.mp (by decide)⟩)
    split
    · rename_i positive
      simp only [String.toList_append, String.toList_ofList, List.append_assoc]
      refine (digits.take (by omega)).append (List.forall_mem_append.mpr ⟨List.all_eq_true.mp (by decide), fun c mem => ?_⟩)
      exact digits.plain c (List.mem_of_mem_drop mem)
    · simp only [String.toList_append, String.toList_ofList, List.append_assoc]
      refine (numeric_toDigits 0).append (List.forall_mem_append.mpr ⟨List.all_eq_true.mp (by decide : ['.'].all isPlain = true), ?_⟩)
      exact List.forall_mem_append.mpr ⟨fun c => isPlain_of_mem_zeros, digits.plain⟩
  · simp only [String.toList_append, String.toList_ofList, List.append_assoc]
    refine (digits.take (by decide)).append ?_
    simp only [List.forall_mem_append]
    refine ⟨?_, List.all_eq_true.mp (by decide), ?_, ?_⟩
    · split
      · nofun
      · rw [String.toList_append]
        refine List.forall_mem_append.mpr ⟨List.all_eq_true.mp (by decide), fun c mem => ?_⟩
        rw [String.toList_ofList] at mem
        exact digits.plain c (List.mem_of_mem_drop mem)
    · split <;> exact List.all_eq_true.mp (by decide)
    · rw [Nat.toString_eq_repr, Nat.toList_repr]
      exact fun c => isPlain_of_mem_toDigits

theorem numeric_text (n : Number) : Numeric n.text.toList := by
  cases n with
  | whole n =>
    cases n with
    | ofNat n =>
      have text : (Number.whole (Int.ofNat n)).text.toList = Nat.toDigits 10 n := Nat.toList_repr
      rw [text]
      exact numeric_toDigits n
    | negSucc n =>
      have text : (Number.whole (Int.negSucc n)).text.toList = '-' :: Nat.toDigits 10 (n + 1) := by
        rw [← Nat.toList_repr]
        exact String.toList_append
      rw [text]
      exact .negated fun c => isPlain_of_mem_toDigits
  | double x => exact numeric_double x

/-! ### Values -/

mutual

/-- The value with its numbers as they are read from their texts. -/
def reread : Json → Option Json
  | .number n => (readNumber n.text.toList).map .number
  | .array elements => (rereadElements elements).map .array
  | .object members => (rereadMembers members).map .object
  | value => some value

def rereadElements : List Json → Option (List Json)
  | [] => some []
  | x :: rest => (reread x).bind fun x => (rereadElements rest).map (x :: ·)

def rereadMembers : List (String × Json) → Option (List (String × Json))
  | [] => some []
  | (name, x) :: rest => (reread x).bind fun x => (rereadMembers rest).map ((name, x) :: ·)

end

/-- The comma in front of all elements but the first. -/
def separator (first : Bool) : List Token := if first then [] else [.comma]

mutual

/-- The tokens of a value in the order of its text. -/
def tokensOf : Json → List Token
  | .string s => [.text s]
  | .array elements => .openArray :: (elementTokens true elements ++ [.closeArray])
  | .object members => .openObject :: (memberTokens true members ++ [.closeObject])
  | value => [.scalar value]

def elementTokens (first : Bool) : List Json → List Token
  | [] => []
  | x :: rest => separator first ++ tokensOf x ++ elementTokens false rest

def memberTokens (first : Bool) : List (String × Json) → List Token
  | [] => []
  | (name, x) :: rest => separator first ++ .text name :: .colon :: tokensOf x ++ memberTokens false rest

end

theorem scanFrom_newLine (level : Nat) : scanFrom found ((newLine level).toList ++ rest) = scanFrom found rest := by
  refine scanFrom_blanks fun c mem => ?_
  rw [newLine, String.toList_append] at mem
  rcases List.mem_append.mp mem with start | indent
  · rw [List.mem_singleton.mp start]
    rfl
  · rw [String.toList_ofList] at indent
    rw [List.eq_of_mem_replicate indent]
    rfl

/-- In front of an element stand its comma and its line. -/
theorem scanFrom_separator (first : Bool) (level : Nat) :
    scanFrom found ((if first then "" else ",").toList ++ ((newLine level).toList ++ rest)) =
      scanFrom ((separator first).reverse ++ found) rest := by
  cases first with
  | true => exact scanFrom_newLine level
  | false => exact scanFrom_newLine level

theorem ends_cons (unplain : isPlain c = false) (rest : List Char) : Ends (c :: rest) := by
  rintro _ ⟨⟩
  exact unplain

theorem ends_newLine (level : Nat) (rest : List Char) : Ends ((newLine level).toList ++ rest) := by
  rw [newLine, String.toList_append]
  exact ends_cons rfl _

/-- An element ends in front of the comma of the next one, or where all of them end. -/
theorem ends_prettyElements (level : Nat) (elements : List Json) (ends : Ends rest) :
    Ends ((prettyElements level false elements).toList ++ rest) := by
  cases elements with
  | nil => exact ends
  | cons x more =>
    rw [prettyElements]
    simp only [String.toList_append, List.append_assoc]
    exact ends_cons rfl _

theorem ends_prettyMembers (level : Nat) (members : List (String × Json)) (ends : Ends rest) :
    Ends ((prettyMembers level false members).toList ++ rest) := by
  cases members with
  | nil => exact ends
  | cons entry more =>
    rw [prettyMembers]
    simp only [String.toList_append, List.append_assoc]
    exact ends_cons rfl _

theorem scanFrom_word (word : String) {token : Token} (named : plainToken word.toList = some token)
    (plain : word.toList.all isPlain) (inhabited : word.toList ≠ []) (ends : Ends rest) :
    scanFrom found (word.toList ++ rest) = scanFrom (token :: found) rest := by
  rw [scanFrom_plain inhabited (List.all_eq_true.mp plain) ends, named]
  rfl

mutual

theorem scanFrom_prettyAt (level : Nat) (found : List Token) {rest : List Char} (ends : Ends rest) :
    (value : Json) → scanFrom found ((prettyAt level value).toList ++ rest) =
      (reread value).bind fun v => scanFrom ((tokensOf v).reverse ++ found) rest
  | .null => scanFrom_word "null" rfl (by decide) (by decide) ends
  | .bool true => scanFrom_word "true" rfl (by decide) (by decide) ends
  | .bool false => scanFrom_word "false" rfl (by decide) (by decide) ends
  | .number n => by
    have numeric := numeric_text n
    rw [prettyAt, scanFrom_plain numeric.ne_nil numeric.plain ends, numeric.plainToken_eq, reread]
    cases readNumber n.text.toList <;> rfl
  | .string s => scanFrom_quoted s
  | .array [] => by
    rw [prettyAt, reread, rereadElements]
    rfl
  | .array (x :: more) => by
    rw [prettyAt.eq_def, reread]
    simp only [String.toList_append, List.append_assoc]
    rw [scanFrom_openArray, scanFrom_prettyElements (level + 1) true _ (ends_newLine level _) (x :: more)]
    cases rereadElements (x :: more) with
    | none => rfl
    | some es =>
      rw [Option.bind_some, scanFrom_newLine, scanFrom_closeArray, Option.map_some, Option.bind_some, tokensOf]
      simp
  | .object [] => by
    rw [prettyAt, reread, rereadMembers]
    rfl
  | .object (entry :: more) => by
    rw [prettyAt.eq_def, reread]
    simp only [String.toList_append, List.append_assoc]
    rw [scanFrom_openObject, scanFrom_prettyMembers (level + 1) true _ (ends_newLine level _) (entry :: more)]
    cases rereadMembers (entry :: more) with
    | none => rfl
    | some ms =>
      rw [Option.bind_some, scanFrom_newLine, scanFrom_closeObject, Option.map_some, Option.bind_some, tokensOf]
      simp

theorem scanFrom_prettyElements (level : Nat) (first : Bool) (found : List Token) {rest : List Char} (ends : Ends rest) :
    (elements : List Json) → scanFrom found ((prettyElements level first elements).toList ++ rest) =
      (rereadElements elements).bind fun es => scanFrom ((elementTokens first es).reverse ++ found) rest
  | [] => rfl
  | x :: more => by
    rw [prettyElements, rereadElements]
    simp only [String.toList_append, List.append_assoc]
    rw [scanFrom_separator, scanFrom_prettyAt level _ (ends_prettyElements level more ends) x]
    cases reread x with
    | none => rfl
    | some v =>
      rw [Option.bind_some, Option.bind_some, scanFrom_prettyElements level false _ ends more]
      cases rereadElements more with
      | none => rfl
      | some es =>
        rw [Option.bind_some, Option.map_some, Option.bind_some, elementTokens]
        simp

theorem scanFrom_prettyMembers (level : Nat) (first : Bool) (found : List Token) {rest : List Char} (ends : Ends rest) :
    (members : List (String × Json)) → scanFrom found ((prettyMembers level first members).toList ++ rest) =
      (rereadMembers members).bind fun ms => scanFrom ((memberTokens first ms).reverse ++ found) rest
  | [] => rfl
  | (name, x) :: more => by
    rw [prettyMembers, rereadMembers]
    simp only [String.toList_append, List.append_assoc]
    rw [scanFrom_separator, scanFrom_quoted, scanFrom_colon, scanFrom_prettyAt level _ (ends_prettyMembers level more ends) x]
    cases reread x with
    | none => rfl
    | some v =>
      rw [Option.bind_some, Option.bind_some, scanFrom_prettyMembers level false _ ends more]
      cases rereadMembers more with
      | none => rfl
      | some ms =>
        rw [Option.bind_some, Option.map_some, Option.bind_some, memberTokens]
        simp

end

/-- The tokens of a text that a value is printed as, with blanks behind it. -/
theorem tokens_pretty (value : Json) {blanks : String} (blank : ∀ c ∈ blanks.toList, isBlank c) :
    tokens (pretty value ++ blanks) = (reread value).map tokensOf := by
  have ends : Ends blanks.toList := by
    intro c first
    have blank := blank c (List.mem_of_mem_head? first)
    simp only [isBlank, Bool.or_eq_true, beq_iff_eq] at blank
    rcases blank with ((rfl | rfl) | rfl) | rfl <;> rfl
  have scanned := scanFrom_prettyAt 0 [] ends value
  rw [tokens, String.toList_append]
  refine Eq.trans scanned ?_
  cases reread value with
  | none => rfl
  | some v =>
    rw [← List.append_nil blanks.toList, Option.bind_some, scanFrom_blanks blank, scanFrom_nil, List.append_nil,
      List.reverse_reverse]
    rfl

end MockApi.Json
