import Mathlib.Tactic.Lemma

/-!
# Values of JSON

The values of JSON and the tokens they are made of.

* `Value.tokens`: the tokens of a value. The grammar of JSON is in this function.
* `tokens_injective`: tokens are those of one value at most.
-/

namespace Scaffold.Json

/-! ## Values and tokens -/

/-- A value. A number keeps its spelling. -/
inductive Value where
  | null
  | boolean (b : Bool)
  | number (literal : String)
  | string (s : String)
  | array (elements : List Value)
  | object (members : List (String × Value))

/-- A piece of a text. The symbols are brackets, braces, commas and colons. -/
inductive Token where
  | symbol (c : Char)
  | null
  | boolean (b : Bool)
  | number (literal : String)
  | string (s : String)
  deriving DecidableEq, Repr

mutual

/-- The tokens of a value. -/
def Value.tokens : Value → List Token
  | .null => [.null]
  | .boolean b => [.boolean b]
  | .number literal => [.number literal]
  | .string s => [.string s]
  | .array [] => [.symbol '[', .symbol ']']
  | .array (v :: vs) => .symbol '[' :: (v.tokens ++ elementTokens vs)
  | .object [] => [.symbol '\x7b', .symbol '\x7d']
  | .object ((name, v) :: ms) =>
    .symbol '\x7b' :: .string name :: .symbol ':' :: (v.tokens ++ memberTokens ms)

/-- The tokens behind an element of an array: those of the elements after it, and the end. -/
def elementTokens : List Value → List Token
  | [] => [.symbol ']']
  | v :: vs => .symbol ',' :: (v.tokens ++ elementTokens vs)

/-- The tokens behind a member of an object: those of the members after it, and the end. -/
def memberTokens : List (String × Value) → List Token
  | [] => [.symbol '\x7d']
  | (name, v) :: ms => .symbol ',' :: .string name :: .symbol ':' :: (v.tokens ++ memberTokens ms)

end

/-- A value does not begin with the end of an array. -/
lemma tokens_append_ne (v : Value) (ts us : List Token) : v.tokens ++ ts ≠ .symbol ']' :: us := by
  rcases v with _ | _ | _ | _ | ⟨_ | _⟩ | ⟨_ | _⟩ <;> simp [Value.tokens]

mutual

/-- Where the tokens of a value end can be told from the tokens. -/
lemma tokens_append_inj (v w : Value) {ts us : List Token} (h : v.tokens ++ ts = w.tokens ++ us) :
    v = w ∧ ts = us := by
  rcases v with _ | _ | _ | _ | ⟨_ | ⟨v, vs⟩⟩ | ⟨_ | ⟨⟨name, v⟩, ms⟩⟩ <;>
    rcases w with _ | _ | _ | _ | ⟨_ | ⟨w, ws⟩⟩ | ⟨_ | ⟨⟨name', w⟩, ms'⟩⟩ <;>
    simp only [Value.tokens, List.cons_append, List.nil_append, List.append_assoc, List.cons.injEq,
      Token.string.injEq, true_and] at h <;> try (simp_all; done)
  -- What is left are two arrays or two objects, with something in one of them at least.
  · exact absurd h.symm (tokens_append_ne w _ _)
  · exact absurd h (tokens_append_ne v _ _)
  · obtain ⟨rfl, hmore⟩ := tokens_append_inj v w h
    obtain ⟨rfl, hrest⟩ := elementTokens_append_inj vs ws hmore
    exact ⟨rfl, hrest⟩
  · obtain ⟨rfl, hvalue⟩ := h
    obtain ⟨rfl, hmore⟩ := tokens_append_inj v w hvalue
    obtain ⟨rfl, hrest⟩ := memberTokens_append_inj ms ms' hmore
    exact ⟨rfl, hrest⟩

/-- The elements of an array are told from their tokens, whatever comes behind. -/
lemma elementTokens_append_inj (vs ws : List Value) {ts us : List Token}
    (h : elementTokens vs ++ ts = elementTokens ws ++ us) : vs = ws ∧ ts = us := by
  rcases vs with _ | ⟨v, vs⟩ <;> rcases ws with _ | ⟨w, ws⟩ <;>
    simp only [elementTokens, List.cons_append, List.nil_append, List.append_assoc,
      List.cons.injEq, true_and] at h
  · exact ⟨rfl, h⟩
  · simp at h
  · simp at h
  · obtain ⟨rfl, hmore⟩ := tokens_append_inj v w h
    obtain ⟨rfl, hrest⟩ := elementTokens_append_inj vs ws hmore
    exact ⟨rfl, hrest⟩

/-- So are the members of an object. -/
lemma memberTokens_append_inj (ms ms' : List (String × Value)) {ts us : List Token}
    (h : memberTokens ms ++ ts = memberTokens ms' ++ us) : ms = ms' ∧ ts = us := by
  rcases ms with _ | ⟨⟨name, v⟩, ms⟩ <;> rcases ms' with _ | ⟨⟨name', w⟩, ms'⟩ <;>
    simp only [memberTokens, List.cons_append, List.nil_append, List.append_assoc,
      List.cons.injEq, Token.string.injEq, true_and] at h
  · exact ⟨rfl, h⟩
  · simp at h
  · simp at h
  · obtain ⟨rfl, hvalue⟩ := h
    obtain ⟨rfl, hmore⟩ := tokens_append_inj v w hvalue
    obtain ⟨rfl, hrest⟩ := memberTokens_append_inj ms ms' hmore
    exact ⟨rfl, hrest⟩

end

/-- Tokens are those of one value at most. -/
lemma tokens_injective : Function.Injective Value.tokens := by
  intro v w h
  have happend : v.tokens ++ [] = w.tokens ++ [] := by rw [h]
  exact (tokens_append_inj v w happend).1

end Scaffold.Json
