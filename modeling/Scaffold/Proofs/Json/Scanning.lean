import Mathlib.Data.List.Infix
import Mathlib.Data.List.TakeWhile
import Mathlib.Tactic.Lemma
import Scaffold.Proofs.Json.Value

/-!
# Texts that are written in JSON

A text is scanned into tokens, with spaces passed over, and it is written for a value when its tokens
are those of the value.

* `readString`, `scan`: the characters of a quoted string, and the tokens of a text.
* `Value.IsWritten`: a text is written for a value, and for one at most (`IsWritten.unique`).
* `Took`: what has been read of a text. No control character is ever read within a string.
* `scan_append`: the tokens of a text remain when more is put behind it, if it does not end within a
  word.
* `scan_quoted_iff`: a value put between quotes at the end of a line is scanned as itself exactly when
  all its characters are plain.
-/

namespace Scaffold.Json

/-! ## Quoted strings -/

/-- A control character. -/
def isControl (c : Char) : Bool :=
  c.toNat < 0x20

/-- A character that stands for itself in a quoted string: no quote, no backslash, and no control
character. -/
def isPlain (c : Char) : Bool :=
  c != '"' && c != '\\' && !isControl c

/-- The value of a hexadecimal digit. -/
def hexDigit? (c : Char) : Option Nat :=
  if '0' ≤ c ∧ c ≤ '9' then some (c.toNat - '0'.toNat)
  else if 'a' ≤ c ∧ c ≤ 'f' then some (c.toNat - 'a'.toNat + 10)
  else if 'A' ≤ c ∧ c ≤ 'F' then some (c.toNat - 'A'.toNat + 10)
  else none

/-- The value of four hexadecimal digits, and what follows them. -/
def readUnit : List Char → Option (Nat × List Char)
  | a :: b :: c :: d :: cs => do
    let digits ← [a, b, c, d].mapM hexDigit?
    return (digits.foldl (fun n digit => 16 * n + digit) 0, cs)
  | _ => none

/-- The characters that a backslash and a single character stand for. -/
def escapes : List (Char × Char) :=
  [('"', '"'), ('\\', '\\'), ('/', '/'), ('b', '\x08'), ('f', '\x0c'), ('n', '\n'), ('r', '\r'),
    ('t', '\t')]

/-- The character that some characters behind a backslash stand for, and what follows them. Of a
character beyond the basic plane both surrogates have to be given. -/
def readEscape : List Char → Option (Char × List Char)
  | [] => none
  | 'u' :: cs => do
    let (n, rest) ← readUnit cs
    if 0xD800 ≤ n ∧ n < 0xDC00 then
      match rest with
      | '\\' :: 'u' :: cs' => do
        let (m, rest') ← readUnit cs'
        if 0xDC00 ≤ m ∧ m < 0xE000 then
          some (Char.ofNat (0x10000 + (n - 0xD800) * 0x400 + (m - 0xDC00)), rest')
        else none
      | _ => none
    else if 0xDC00 ≤ n ∧ n < 0xE000 then none
    else some (Char.ofNat n, rest)
  | e :: cs => (escapes.lookup e).map (·, cs)

/-- The next character of a quoted string, and what follows it. -/
def readChar : List Char → Option (Char × List Char)
  | [] => none
  | '\\' :: cs => readEscape cs
  | c :: cs => if isPlain c then some (c, cs) else none

/-! ## What has been read -/

/-- What has been read of a text: nothing in it is a control character. -/
structure Took (cs source rest : List Char) : Prop where
  eq : cs = source ++ rest
  not_control : ∀ c ∈ source, isControl c = false

section taking

variable {cs source rest more : List Char} {c : Char}

/-- Nothing is taken. -/
lemma Took.nil : Took cs [] cs :=
  ⟨rfl, by simp⟩

/-- One more character is taken, which is no control character. -/
lemma Took.cons (hc : isControl c = false) (h : Took cs source rest) :
    Took (c :: cs) (c :: source) rest :=
  ⟨by rw [h.eq, List.cons_append], List.forall_mem_cons.mpr ⟨hc, h.not_control⟩⟩

/-- What is taken first and what is taken next is taken together. -/
lemma Took.append {source' rest' : List Char} (h : Took cs source rest)
    (h' : Took rest source' rest') : Took cs (source ++ source') rest' :=
  ⟨by rw [h.eq, h'.eq, List.append_assoc], List.forall_mem_append.mpr ⟨h.not_control, h'.not_control⟩⟩

/-- A hexadecimal digit is no control character. -/
lemma isControl_of_hexDigit? {n : Nat} (h : hexDigit? c = some n) : isControl c = false := by
  have hlow (d : Char) (hd : '0' ≤ d) : isControl d = false := by
    have : 0x30 ≤ d.toNat := hd
    simp only [isControl, decide_eq_false_iff_not]
    omega
  unfold hexDigit? at h
  split_ifs at h with hdecimal hlower hupper
  · exact hlow c hdecimal.1
  · exact hlow c (Char.le_trans (by decide : '0' ≤ 'a') hlower.1)
  · exact hlow c (Char.le_trans (by decide : '0' ≤ 'A') hupper.1)

/-- A plain character is no control character. -/
lemma isControl_of_isPlain (h : isPlain c = true) : isControl c = false := by
  simp only [isPlain, Bool.and_eq_true, Bool.not_eq_true'] at h
  exact h.2

/-- A plain character stands for itself. -/
lemma readChar_of_isPlain (h : isPlain c = true) : readChar (c :: cs) = some (c, cs) := by
  have hne : c ≠ '\\' := by
    rintro rfl
    exact absurd h (by decide)
  unfold readChar
  split <;> simp_all

/-- The digits of a unit are taken. -/
lemma took_of_readUnit {n : Nat} (h : readUnit cs = some (n, rest)) :
    ∃ source, Took cs source rest := by
  unfold readUnit at h
  split at h
  · rename_i a b c d cs'
    simp only [List.mapM_cons, List.mapM_nil, Option.pure_def, Option.bind_eq_bind,
      Option.bind_eq_some_iff] at h
    obtain ⟨_, ⟨_, ha, _, ⟨_, hb, _, ⟨_, hc, _, ⟨_, hd, -⟩, -⟩, -⟩, -⟩, hrest⟩ := h
    obtain ⟨-, rfl⟩ := Prod.mk.inj (Option.some.inj hrest)
    exact ⟨_, .cons (isControl_of_hexDigit? ha) (.cons (isControl_of_hexDigit? hb)
      (.cons (isControl_of_hexDigit? hc) (.cons (isControl_of_hexDigit? hd) .nil)))⟩
  · cases h

/-- An escape is taken, which is at least one character. -/
lemma took_of_readEscape (h : readEscape cs = some (c, rest)) :
    ∃ source, source ≠ [] ∧ Took cs source rest := by
  unfold readEscape at h
  split at h
  · cases h
  · rename_i cs
    obtain ⟨⟨n, rest'⟩, hunit, h⟩ := Option.bind_eq_some_iff.mp h
    obtain ⟨source, htook⟩ := took_of_readUnit hunit
    have hu : Took ('u' :: cs) ('u' :: source) rest' := .cons (by decide) htook
    dsimp only at h
    split_ifs at h
    · split at h
      · rename_i cs'
        obtain ⟨⟨m, rest''⟩, hunit', h⟩ := Option.bind_eq_some_iff.mp h
        obtain ⟨source', htook'⟩ := took_of_readUnit hunit'
        split_ifs at h
        obtain ⟨-, rfl⟩ := Prod.mk.inj (Option.some.inj h)
        exact ⟨_, by simp, hu.append (.cons (by decide) (.cons (by decide) htook'))⟩
      · cases h
    · obtain ⟨-, rfl⟩ := Prod.mk.inj (Option.some.inj h)
      exact ⟨_, by simp, hu⟩
  · rename_i e cs _
    obtain ⟨d, hd, h⟩ := Option.map_eq_some_iff.mp h
    obtain ⟨-, rfl⟩ := Prod.mk.inj h
    have he : isControl e = false := by
      have hall : ∀ x ∈ escapes, isControl x.1 = false := by decide
      obtain ⟨before, after, hescapes, -⟩ := List.lookup_eq_some_iff.mp hd
      exact hall (e, d) (by rw [hescapes]; simp)
    exact ⟨[e], by simp, .cons he .nil⟩

/-- A character is read as itself, if it is plain, or from several characters. -/
lemma took_of_readChar (h : readChar cs = some (c, rest)) :
    ∃ source, Took cs source rest ∧ (source = [c] ∧ isPlain c = true ∨ 2 ≤ source.length) := by
  unfold readChar at h
  split at h
  · cases h
  · obtain ⟨source, hne, htook⟩ := took_of_readEscape h
    have := List.length_pos_iff.mpr hne
    exact ⟨_, .cons (by decide) htook, .inr (by simp only [List.length_cons]; omega)⟩
  · split_ifs at h with hplain
    obtain ⟨rfl, rfl⟩ := Prod.mk.inj (Option.some.inj h)
    exact ⟨_, .cons (isControl_of_isPlain hplain) .nil, .inl ⟨rfl, hplain⟩⟩

/-- A character of a string uses up some of the text. -/
lemma readChar_shorter (h : readChar cs = some (c, rest)) : rest.length < cs.length := by
  obtain ⟨source, htook, hsource⟩ := took_of_readChar h
  have hpos : 0 < source.length := by
    rcases hsource with ⟨rfl, -⟩ | hlong
    · simp
    · omega
  rw [htook.eq, List.length_append]
  omega

end taking

/-! ## Strings -/

/-- The characters up to the quote that ends a string, and what follows it. -/
def readString (cs : List Char) : Option (List Char × List Char) :=
  match cs with
  | '"' :: rest => some ([], rest)
  | cs =>
    match _h : readChar cs with
    | none => none
    | some (c, rest) => (readString rest).map fun r => (c :: r.1, r.2)
termination_by cs.length
decreasing_by exact readChar_shorter _h

section strings

variable {cs source rest more value : List Char} {c : Char}

/-- A quote ends a string. -/
lemma readString_quote : readString ('"' :: rest) = some ([], rest) := by
  rw [readString]

/-- A string is a character and then a string. -/
lemma readString_of_readChar (h : readChar cs = some (c, rest)) :
    readString cs = (readString rest).map fun r => (c :: r.1, r.2) := by
  rw [readString.eq_def]
  split
  · simp [readChar, isPlain] at h
  · split <;> simp_all

/-- The cases of a string: it ends, or a character is read. -/
lemma readString_eq_some_iff : readString cs = some (value, rest) ↔
    cs = '"' :: rest ∧ value = [] ∨ ∃ c next value', readChar cs = some (c, next) ∧
      readString next = some (value', rest) ∧ value = c :: value' := by
  constructor
  · intro h
    rw [readString.eq_def] at h
    split at h
    · left
      simp_all
    · right
      split at h
      · cases h
      · obtain ⟨⟨value', rest'⟩, h', heq⟩ := Option.map_eq_some_iff.mp h
        obtain ⟨rfl, rfl⟩ := Prod.mk.inj heq
        exact ⟨_, _, value', ‹_›, h', rfl⟩
  · rintro (⟨rfl, rfl⟩ | ⟨c, next, value', hc, h, rfl⟩)
    · exact readString_quote
    · rw [readString_of_readChar hc, h]
      rfl

/-- Plain characters are read as themselves. -/
lemma readString_append (hplain : ∀ c ∈ value, isPlain c = true) :
    readString (value ++ '"' :: rest) = some (value, rest) := by
  induction value with
  | nil => exact readString_quote
  | cons c value ih =>
      rw [List.forall_mem_cons] at hplain
      have hc : readChar (c :: (value ++ '"' :: rest)) = some (c, value ++ '"' :: rest) :=
        readChar_of_isPlain hplain.1
      rw [List.cons_append, readString_of_readChar hc, ih hplain.2]
      rfl

/-- Where a string is read, it stands without a control character, and either as it is or longer than
it is. -/
lemma took_of_readString (h : readString cs = some (value, rest)) :
    ∃ source, Took cs source ('"' :: rest) ∧ value.length ≤ source.length ∧
      (source.length = value.length → source = value ∧ ∀ c ∈ value, isPlain c = true) := by
  induction value generalizing cs with
  | nil =>
      rcases readString_eq_some_iff.mp h with ⟨rfl, -⟩ | ⟨_, _, _, -, -, hcons⟩
      · exact ⟨[], .nil, le_rfl, fun _ => ⟨rfl, by simp⟩⟩
      · cases hcons
  | cons c value ih =>
      rcases readString_eq_some_iff.mp h with ⟨-, hnil⟩ | ⟨_, next, _, hc, h', hcons⟩
      · cases hnil
      obtain ⟨rfl, rfl⟩ := List.cons.inj hcons
      obtain ⟨source, htook, hle, heq⟩ := ih h'
      obtain ⟨first, hfirst, hsource⟩ := took_of_readChar hc
      refine ⟨first ++ source, hfirst.append htook, ?_, ?_⟩
      · rcases hsource with ⟨rfl, -⟩ | hlong <;> simp <;> omega
      · intro hlength
        rcases hsource with ⟨rfl, hplain⟩ | hlong
        · obtain ⟨rfl, hvalue⟩ := heq (by simpa using hlength)
          exact ⟨rfl, List.forall_mem_cons.mpr ⟨hplain, hvalue⟩⟩
        · simp only [List.length_append, List.length_cons] at hlength
          omega

/-! What is read of a text is read of any longer one too. -/

/-- The digits of a unit are read whatever comes behind. -/
lemma readUnit_append {n : Nat} (h : readUnit cs = some (n, rest)) (more : List Char) :
    readUnit (cs ++ more) = some (n, rest ++ more) := by
  unfold readUnit at h
  split at h
  · obtain ⟨digits, hdigits, hrest⟩ := Option.bind_eq_some_iff.mp h
    obtain ⟨rfl, rfl⟩ := Prod.mk.inj (Option.some.inj hrest)
    simp only [readUnit, List.cons_append, hdigits, Option.bind_eq_bind, Option.bind_some,
      Option.pure_def]
  · cases h

/-- An escape is read whatever comes behind. -/
lemma readEscape_append (h : readEscape cs = some (c, rest)) (more : List Char) :
    readEscape (cs ++ more) = some (c, rest ++ more) := by
  unfold readEscape at h
  split at h
  · cases h
  · rename_i cs
    obtain ⟨⟨n, rest'⟩, hunit, h⟩ := Option.bind_eq_some_iff.mp h
    simp only [readEscape, List.cons_append, readUnit_append hunit more, Option.bind_eq_bind,
      Option.bind_some]
    dsimp only at h
    split_ifs at h ⊢
    · split at h
      · rename_i cs'
        obtain ⟨⟨m, rest''⟩, hunit', h⟩ := Option.bind_eq_some_iff.mp h
        simp only [List.cons_append, readUnit_append hunit' more, Option.bind_some]
        split_ifs at h ⊢
        obtain ⟨rfl, rfl⟩ := Prod.mk.inj (Option.some.inj h)
        rfl
      · cases h
    · obtain ⟨rfl, rfl⟩ := Prod.mk.inj (Option.some.inj h)
      rfl
  · rename_i e cs hu
    obtain ⟨d, hd, h⟩ := Option.map_eq_some_iff.mp h
    obtain ⟨rfl, rfl⟩ := Prod.mk.inj h
    rw [List.cons_append, readEscape, hd]
    · rfl
    · exact hu

/-- A character of a string is read whatever comes behind. -/
lemma readChar_append (h : readChar cs = some (c, rest)) (more : List Char) :
    readChar (cs ++ more) = some (c, rest ++ more) := by
  unfold readChar at h
  split at h
  · cases h
  · exact readEscape_append h more
  · split_ifs at h with hplain
    obtain ⟨rfl, rfl⟩ := Prod.mk.inj (Option.some.inj h)
    exact readChar_of_isPlain hplain

/-- A string that is closed is read whatever comes behind. -/
lemma readString_append_of_eq (h : readString cs = some (value, rest)) (more : List Char) :
    readString (cs ++ more) = some (value, rest ++ more) := by
  induction value generalizing cs with
  | nil =>
      rcases readString_eq_some_iff.mp h with ⟨rfl, -⟩ | ⟨_, _, _, -, -, hcons⟩
      · exact readString_quote
      · cases hcons
  | cons c value ih =>
      rcases readString_eq_some_iff.mp h with ⟨-, hnil⟩ | ⟨_, next, _, hc, h', hcons⟩
      · cases hnil
      obtain ⟨rfl, rfl⟩ := List.cons.inj hcons
      rw [readString_of_readChar (readChar_append hc more), ih h']
      rfl

end strings

/-! ## Tokens -/

/-- A character that may stand between tokens. -/
def isSpace (c : Char) : Bool :=
  c == ' ' || c == '\t' || c == '\n' || c == '\r'

/-- A character that is a token. -/
def isSymbol (c : Char) : Bool :=
  c == '\x7b' || c == '\x7d' || c == '[' || c == ']' || c == ':' || c == ','

/-- A character of a word: of the name of a constant or of a number. -/
def isBare (c : Char) : Bool :=
  !isSpace c && !isSymbol c && c != '"'

/-- Digits, one at least. -/
def isDigits (cs : List Char) : Bool :=
  !cs.isEmpty && cs.all Char.isDigit

/-- The exponent of a number, or none. -/
def isExponent : List Char → Bool
  | [] => true
  | e :: '+' :: cs => (e == 'e' || e == 'E') && isDigits cs
  | e :: '-' :: cs => (e == 'e' || e == 'E') && isDigits cs
  | e :: cs => (e == 'e' || e == 'E') && isDigits cs

/-- What stands behind the whole part of a number: a fraction, an exponent, both or none. -/
def isFraction : List Char → Bool
  | '.' :: cs => isDigits (cs.takeWhile Char.isDigit) && isExponent (cs.dropWhile Char.isDigit)
  | cs => isExponent cs

/-- A number without a sign. The whole part has no leading zeros. -/
def isMagnitude : List Char → Bool
  | '0' :: cs => isFraction cs
  | cs => isDigits (cs.takeWhile Char.isDigit) && isFraction (cs.dropWhile Char.isDigit)

/-- A number. -/
def isNumber : List Char → Bool
  | '-' :: cs => isMagnitude cs
  | cs => isMagnitude cs

/-- The token of a word. -/
def ofWord (word : List Char) : Option Token :=
  if word = ['n', 'u', 'l', 'l'] then some .null
  else if word = ['t', 'r', 'u', 'e'] then some (.boolean true)
  else if word = ['f', 'a', 'l', 's', 'e'] then some (.boolean false)
  else if isNumber word then some (.number (String.ofList word))
  else none

/-- The token at a character that is no space, and what follows it. -/
def readToken : List Char → Option (Token × List Char)
  | [] => none
  | '"' :: cs => (readString cs).map fun r => (.string (String.ofList r.1), r.2)
  | c :: cs =>
    if isSymbol c then some (.symbol c, cs)
    else (ofWord ((c :: cs).takeWhile isBare)).map (·, (c :: cs).dropWhile isBare)

/-- A token at the beginning of a text, and what follows it. -/
inductive Begins : List Char → Token → List Char → Prop
  | string {cs value rest : List Char} (h : readString cs = some (value, rest)) :
      Begins ('"' :: cs) (.string (String.ofList value)) rest
  | symbol {c : Char} {rest : List Char} (h : isSymbol c = true) : Begins (c :: rest) (.symbol c) rest
  | word {word rest : List Char} {t : Token} (hbare : ∀ c ∈ word, isBare c = true)
      (hrest : ∀ c ∈ rest.head?, isBare c = false) (h : ofWord word = some t) :
      Begins (word ++ rest) t rest

section tokens

variable {cs rest : List Char} {t : Token} {ts : List Token}

/-- No character of a bare word is a symbol. -/
lemma isSymbol_of_isBare {c : Char} (h : isBare c = true) : isSymbol c = false := by
  simp only [isBare, Bool.and_eq_true, Bool.not_eq_true'] at h
  exact h.1.2

/-- No character of a bare word is a space. -/
lemma isSpace_of_isBare {c : Char} (h : isBare c = true) : isSpace c = false := by
  simp only [isBare, Bool.and_eq_true, Bool.not_eq_true'] at h
  exact h.1.1

/-- No symbol is a space. -/
lemma isSpace_of_isSymbol {c : Char} (h : isSymbol c = true) : isSpace c = false := by
  simp only [isSymbol, Bool.or_eq_true, beq_iff_eq] at h
  rcases h with ((((rfl | rfl) | rfl) | rfl) | rfl) | rfl <;> decide

/-- A word ends where a character comes that is not of a word. -/
lemma split_word {word : List Char} (hbare : ∀ c ∈ word, isBare c = true)
    (hrest : ∀ c ∈ rest.head?, isBare c = false) :
    (word ++ rest).takeWhile isBare = word ∧ (word ++ rest).dropWhile isBare = rest := by
  rw [List.takeWhile_append_of_pos hbare, List.dropWhile_append_of_pos hbare]
  cases rest with
  | nil => simp
  | cons d ds => simp [hrest d rfl]

/-- No character at all is no word. -/
lemma ne_nil_of_ofWord {word : List Char} (h : ofWord word = some t) : word ≠ [] := by
  rintro rfl
  cases h

/-- A token is read exactly where one begins. -/
lemma readToken_eq_some_iff : readToken cs = some (t, rest) ↔ Begins cs t rest := by
  constructor
  · intro h
    unfold readToken at h
    split at h
    · cases h
    · obtain ⟨⟨value, rest'⟩, hstring, h⟩ := Option.map_eq_some_iff.mp h
      obtain ⟨rfl, rfl⟩ := Prod.mk.inj h
      exact .string hstring
    · rename_i c cs _
      split_ifs at h with hsymbol
      · obtain ⟨rfl, rfl⟩ := Prod.mk.inj (Option.some.inj h)
        exact .symbol hsymbol
      · obtain ⟨t', hword, h⟩ := Option.map_eq_some_iff.mp h
        obtain ⟨rfl, rfl⟩ := Prod.mk.inj h
        have hbegins : Begins ((c :: cs).takeWhile isBare ++ (c :: cs).dropWhile isBare) t' _ :=
          .word (fun _ => List.mem_takeWhile_imp) (fun d hd => ?_) hword
        · rwa [List.takeWhile_append_dropWhile] at hbegins
        · have := List.head?_dropWhile_not isBare (c :: cs)
          rw [Option.mem_def.mp hd] at this
          simpa using this
  · rintro (hstring | hsymbol | ⟨hbare, hrest, hword⟩)
    · rw [readToken, hstring]
      rfl
    · rw [readToken, if_pos hsymbol]
      rintro rfl
      exact absurd hsymbol (by decide)
    · rename_i word
      obtain ⟨c, cs, rfl⟩ := List.exists_cons_of_ne_nil (ne_nil_of_ofWord hword)
      have hsymbol := isSymbol_of_isBare (hbare c List.mem_cons_self)
      obtain ⟨htake, hdrop⟩ := split_word hbare hrest
      rw [List.cons_append] at htake hdrop ⊢
      rw [readToken, if_neg (by simp [hsymbol]), htake, hdrop, hword]
      · rfl
      · rintro rfl
        exact absurd (hbare _ List.mem_cons_self) (by decide)

/-- A token uses up some of the text. -/
lemma readToken_shorter (h : readToken cs = some (t, rest)) : rest.length < cs.length := by
  cases readToken_eq_some_iff.mp h with
  | string h =>
      obtain ⟨source, htook, -⟩ := took_of_readString h
      rw [htook.eq]
      simp only [List.length_cons, List.length_append]
      omega
  | symbol h => simp
  | word hbare hrest hword =>
      have := List.length_pos_iff.mpr (ne_nil_of_ofWord hword)
      rw [List.length_append]
      omega

/-- A token remains when more is put behind the text, unless it is a word that may go on. -/
lemma Begins.append (h : Begins cs t rest) (hend : ∀ c ∈ cs.getLast?, isBare c = false)
    (more : List Char) : Begins (cs ++ more) t (rest ++ more) := by
  cases h with
  | string h => exact .string (readString_append_of_eq h more)
  | symbol h => exact .symbol h
  | word hbare hrest hword =>
      rename_i word
      rw [List.append_assoc]
      refine .word hbare (fun c hc => ?_) hword
      cases rest with
      | nil =>
          have hlast := List.getLast?_eq_some_getLast (ne_nil_of_ofWord hword)
          rw [List.append_nil] at hend
          have := hend _ hlast
          rw [hbare _ (List.getLast_mem _)] at this
          cases this
      | cons d ds => exact hrest c hc

/-- What follows a token is the end of the text. -/
lemma Begins.suffix (h : Begins cs t rest) : rest <:+ cs := by
  cases h with
  | string h =>
      obtain ⟨source, htook, -⟩ := took_of_readString h
      exact ⟨'"' :: source ++ ['"'], by simp [htook.eq]⟩
  | symbol h => exact List.suffix_cons _ _
  | word hbare hrest hword => exact List.suffix_append _ _

/-- A token begins with no space. -/
lemma Begins.isSpace_head (h : Begins cs t rest) : ∃ c cs', cs = c :: cs' ∧ isSpace c = false := by
  cases h with
  | string h => exact ⟨_, _, rfl, by decide⟩
  | symbol h => exact ⟨_, _, rfl, isSpace_of_isSymbol h⟩
  | word hbare hrest hword =>
      obtain ⟨c, cs, rfl⟩ := List.exists_cons_of_ne_nil (ne_nil_of_ofWord hword)
      exact ⟨c, _, rfl, isSpace_of_isBare (hbare c List.mem_cons_self)⟩

end tokens

/-! ## Texts -/

/-- The tokens of a text. -/
def scan (cs : List Char) : Option (List Token) :=
  if cs.dropWhile isSpace = [] then some []
  else
    match _h : readToken (cs.dropWhile isSpace) with
    | none => none
    | some (t, rest) => (scan rest).map (t :: ·)
termination_by cs.length
decreasing_by exact Nat.lt_of_lt_of_le (readToken_shorter _h) (List.dropWhile_suffix _).length_le

/-- A text is written for a value. -/
def Value.IsWritten (v : Value) (text : String) : Prop :=
  scan text.toList = some v.tokens

/-- A text is written for one value at most. -/
lemma Value.IsWritten.unique {v w : Value} {text : String} (hv : v.IsWritten text)
    (hw : w.IsWritten text) : v = w :=
  tokens_injective (Option.some.inj (hv.symm.trans hw))

section texts

variable {cs rest : List Char} {t : Token} {ts : List Token}

/-- No text has no tokens. -/
lemma scan_nil : scan [] = some [] := by
  rw [scan]
  rfl

/-- Where a token begins, it is the first of all tokens. -/
lemma scan_of_begins (h : Begins cs t rest) : scan cs = (scan rest).map (t :: ·) := by
  obtain ⟨c, cs, rfl, hc⟩ := h.isSpace_head
  rw [scan.eq_def, List.dropWhile_cons_of_neg (by simp [hc]), if_neg (List.cons_ne_nil _ _)]
  split <;> simp_all [readToken_eq_some_iff.mpr h]

/-- Spaces in front of a text make no token. -/
lemma scan_spaces {gap : List Char} (h : ∀ c ∈ gap, isSpace c = true) (cs : List Char) :
    scan (gap ++ cs) = scan cs := by
  rw [scan.eq_def (gap ++ cs), scan.eq_def cs, List.dropWhile_append_of_pos h]

/-- What ends with no character of a word still does so from a later place on. -/
lemma last_of_suffix (h : ∀ c ∈ cs.getLast?, isBare c = false) (hrest : rest <:+ cs) :
    ∀ c ∈ rest.getLast?, isBare c = false := by
  obtain ⟨before, rfl⟩ := hrest
  intro c hc
  exact h c (by rw [List.getLast?_append, Option.mem_def.mp hc]; rfl)

/-- The cases of a text: there are only spaces, or a token comes. -/
lemma scan_eq_some_iff : scan cs = some ts ↔ ∃ gap, (∀ c ∈ gap, isSpace c = true) ∧
    (cs = gap ∧ ts = [] ∨ ∃ cs' t rest ts', cs = gap ++ cs' ∧ Begins cs' t rest ∧
      scan rest = some ts' ∧ ts = t :: ts') := by
  constructor
  · intro h
    refine ⟨cs.takeWhile isSpace, fun c => List.mem_takeWhile_imp, ?_⟩
    have hcs := List.takeWhile_append_dropWhile (p := isSpace) (l := cs)
    rw [scan.eq_def] at h
    split_ifs at h with hnil
    · left
      rw [hnil, List.append_nil] at hcs
      exact ⟨hcs.symm, (Option.some.inj h).symm⟩
    · split at h
      · cases h
      · obtain ⟨ts', hts, rfl⟩ := Option.map_eq_some_iff.mp h
        exact .inr ⟨_, _, _, ts', hcs.symm, readToken_eq_some_iff.mp ‹_›, hts, rfl⟩
  · rintro ⟨gap, hgap, ⟨rfl, rfl⟩ | ⟨cs', t, rest, ts', rfl, hbegins, hts, rfl⟩⟩
    · rw [← List.append_nil cs, scan_spaces hgap, scan_nil]
    · rw [scan_spaces hgap, scan_of_begins hbegins, hts]
      rfl

/-- The tokens of a text remain when more is put behind it, if it does not end with a word. -/
lemma scan_append (h : scan cs = some ts) (hend : ∀ c ∈ cs.getLast?, isBare c = false)
    (more : List Char) : scan (cs ++ more) = (scan more).map (ts ++ ·) := by
  induction ts generalizing cs with
  | nil =>
      obtain ⟨gap, hgap, ⟨rfl, -⟩ | ⟨_, _, _, _, -, -, -, hcons⟩⟩ := scan_eq_some_iff.mp h
      · simp [scan_spaces hgap]
      · cases hcons
  | cons t ts ih =>
      obtain ⟨gap, hgap, ⟨-, hnil⟩ | ⟨cs', _, rest, _, rfl, hbegins, hts, hcons⟩⟩ :=
        scan_eq_some_iff.mp h
      · cases hnil
      obtain ⟨rfl, rfl⟩ := List.cons.inj hcons
      have hend' := last_of_suffix hend (List.suffix_append gap cs')
      have hmore := ih hts (last_of_suffix hend' hbegins.suffix)
      rw [List.append_assoc, scan_spaces hgap, scan_of_begins (hbegins.append hend' more), hmore,
        Option.map_map]
      rfl

/-- A quote begins a string. -/
lemma scan_quote : scan ('"' :: cs) =
    (readString cs).bind fun r => (scan r.2).map (.string (String.ofList r.1) :: ·) := by
  cases hr : readString cs with
  | some r => exact scan_of_begins (.string hr)
  | none =>
      rw [scan.eq_def, List.dropWhile_cons_of_neg (by decide), if_neg (List.cons_ne_nil _ _)]
      split <;> simp_all [readToken]

/-- Nothing but plain characters is read as itself at the end of a line: a string that stands longer
than it is would hold the end of the line, which is a control character. -/
lemma isPlain_of_readString {value : List Char}
    (h : readString (value ++ '"' :: ',' :: '\n' :: cs) = some (value, rest)) :
    ∀ c ∈ value, isPlain c = true := by
  obtain ⟨source, htook, hle, hplain⟩ := took_of_readString h
  rcases List.append_eq_append_iff.mp htook.eq with ⟨more, hsource, hmore⟩ | ⟨more, hvalue, -⟩
  · cases more with
    | nil => exact (hplain (by rw [hsource, List.append_nil])).2
    | cons c more =>
        exfalso
        obtain ⟨-, hmore⟩ := List.cons.inj hmore
        rcases more with _ | ⟨_, _ | ⟨_, more⟩⟩
        · cases (List.cons.inj hmore).1
        · cases (List.cons.inj (List.cons.inj hmore).2).1
        · obtain ⟨rfl, -⟩ := List.cons.inj (List.cons.inj hmore).2
          have hnewline := htook.not_control '\n' (by rw [hsource]; simp)
          exact absurd hnewline (by decide)
  · have hsource : source.length = value.length := by
      rw [hvalue, List.length_append] at hle ⊢
      omega
    exact (hplain hsource).2

/-- Let a text be scanned as some tokens. A value that is put behind it, between quotes at the end of a
line, is scanned as itself exactly when all its characters are plain. -/
lemma scan_quoted_iff {value : String} {us : List Token} (h : scan cs = some ts)
    (hend : ∀ c ∈ cs.getLast?, isBare c = false) (hrest : [',', '\n'] <+: rest) :
    scan (cs ++ '"' :: (value.toList ++ '"' :: rest)) = some (ts ++ .string value :: us) ↔
      (∀ c ∈ value.toList, isPlain c = true) ∧ scan rest = some us := by
  obtain ⟨rest, rfl⟩ := hrest
  rw [scan_append h hend, scan_quote]
  constructor
  · intro hscan
    obtain ⟨_, hquoted, heq⟩ := Option.map_eq_some_iff.mp hscan
    obtain ⟨⟨value', rest'⟩, hread, hquoted⟩ := Option.bind_eq_some_iff.mp hquoted
    obtain ⟨us', hus, rfl⟩ := Option.map_eq_some_iff.mp hquoted
    obtain ⟨hvalue, rfl⟩ := List.cons.inj (List.append_cancel_left heq)
    obtain rfl := Token.string.inj hvalue
    rw [String.toList_ofList] at hread ⊢
    have hplain := isPlain_of_readString hread
    rw [readString_append hplain] at hread
    obtain ⟨-, rfl⟩ := Prod.mk.inj (Option.some.inj hread)
    exact ⟨hplain, hus⟩
  · rintro ⟨hplain, hus⟩
    rw [readString_append hplain, Option.bind_some, hus, String.ofList_toList]
    rfl

end texts

end Scaffold.Json
