import Mathlib.Tactic.Lemma
import Scaffold.Proofs.Template.Grammar
import Scaffold.Proofs.Template.Scanning
import Scaffold.Template.Render

/-!
# Statements written as a template

Statements have one way in which they are written: a text as it is, a variable and the words of a
conditional in directives of their own, and an empty directive between two texts.

* `print`: the template of some statements.
* `Printable`: texts are not empty and hold no opening bracket, names are names and no keywords, and
  nothing foreign stands among the statements.
* `Leads`: what is left of a template, together with the progress of reading, one or more tokens
  later. Both machines take the same tokens, so the lemmas about them are put together here.
* `parse_print_and_printable`: what is printed reads back, and what is read is printable.
-/

namespace Scaffold.Template

open Text (isBlank)

/-! ## Printing -/

/-- A directive around some words. -/
def directive (words : String) : List Char :=
  ['{', '%', ' '] ++ words.toList ++ [' ', '%', '}']

/-- The words of the directive that opens a conditional. -/
def conditionWords (name : String) (negated : Bool) : String :=
  (if negated then "if !" else "if ") ++ name

/-- What stands between a statement and those after it: an empty directive between two texts. -/
def separator : Statement → List Statement → List Char
  | .text _, .text _ :: _ => ['{', '%', '%', '}']
  | _, _ => []

mutual

/-- The characters of a statement. -/
def Statement.print : Statement → List Char
  | .text content => content.toList
  | .variable name => directive name
  | .conditional name negated thenBranch elseBranch =>
    directive (conditionWords name negated) ++ printAll thenBranch ++ printElse elseBranch ++
      directive "endif"
  | .foreign _ => []

/-- The characters of an `else` clause. -/
def printElse : Option (List Statement) → List Char
  | none => []
  | some branch => directive "else" ++ printAll branch

/-- The characters of a list of statements. -/
def printAll : List Statement → List Char
  | [] => []
  | s :: ss => s.print ++ separator s ss ++ printAll ss

end

/-- The template of some statements. -/
def print (ss : List Statement) : String :=
  String.ofList (printAll ss)

@[simp] lemma printAll_nil : printAll [] = [] := by
  rw [printAll]

@[simp] lemma printAll_cons (s : Statement) (ss : List Statement) :
    printAll (s :: ss) = s.print ++ separator s ss ++ printAll ss := by
  rw [printAll]

@[simp] lemma print_text (content : String) : (Statement.text content).print = content.toList := by
  rw [Statement.print]

@[simp] lemma print_variable (name : String) :
    (Statement.variable name).print = directive name := by
  rw [Statement.print]

@[simp] lemma print_choice (name : String) (negated : Bool) (T : List Statement) :
    (Statement.conditional name negated T none).print =
      directive (conditionWords name negated) ++ printAll T ++ directive "endif" := by
  simp [Statement.print, printElse]

@[simp] lemma print_choiceElse (name : String) (negated : Bool) (T F : List Statement) :
    (Statement.conditional name negated T (some F)).print =
      directive (conditionWords name negated) ++ printAll T ++ (directive "else" ++ printAll F) ++
        directive "endif" := by
  simp [Statement.print, printElse]

/-! ## What can be printed -/

/-- A text that a template can hold in one piece. -/
def IsTextContent (content : String) : Prop :=
  content ≠ "" ∧ ¬ openChars <:+: content.toList

/-- A word: the first character starts a name and the others go on with it. -/
def IsWord (w : String) : Prop :=
  ∃ c cs, w.toList = c :: cs ∧ isNameStart c = true ∧ ∀ d ∈ cs, isNameChar d = true

/-- A word that is no keyword. -/
def IsVariableName (w : String) : Prop :=
  IsWord w ∧ w ∉ ["if", "else", "endif"]

/-- Statements that can be printed. -/
def Printable (ss : List Statement) : Prop :=
  allBuiltFrom IsTextContent IsVariableName ss

/-- A word that is no keyword is the name of a variable. -/
lemma ofWord_of_not_mem {w : String} (h : w ∉ ["if", "else", "endif"]) :
    Token.ofWord w = .ofName w := by
  unfold Token.ofWord Token.Kind.ofKeyword?
  split <;> rename_i hk <;> split at hk <;> simp_all

/-- A variable among the tokens of words is none of the keywords. -/
lemma not_mem_of_kind_ofWord {w : String} (h : (Token.ofWord w).kind = .variable) :
    w ∉ ["if", "else", "endif"] ∧ (Token.ofWord w).value = w := by
  unfold Token.ofWord Token.Kind.ofKeyword? at h ⊢
  split at h <;> rename_i hk <;> split at hk <;> simp_all [Token.ofName]

/-! ## The scanner and the reader together -/

/-- What is left of a template, whether it lies inside of a directive, and the progress of reading
what comes before. -/
structure Reading where
  rest : List Char
  inside : Bool
  progress : Progress

/-- From one reading to a later one: the scanner finds tokens on the way, and all of them are
taken. -/
def Leads (r r' : Reading) : Prop :=
  ∀ offset, ∃ offset' ts,
    (⟨r.rest, r.inside, offset⟩ : Scanner).tokens =
      ts ++ (⟨r'.rest, r'.inside, offset'⟩ : Scanner).tokens ∧
    advance r.progress ts = .ok r'.progress

/-- A reading leads to itself. -/
lemma Leads.refl (r : Reading) : Leads r r :=
  fun offset => ⟨offset, [], rfl, rfl⟩

/-- Readings that lead to one another do so in a row. -/
lemma Leads.trans {r r' r'' : Reading} (h : Leads r r') (h' : Leads r' r'') : Leads r r'' := by
  intro offset
  obtain ⟨offset₁, ts, htokens, hadvance⟩ := h offset
  obtain ⟨offset₂, us, htokens', hadvance'⟩ := h' offset₁
  refine ⟨offset₂, ts ++ us, ?_, advance_append_of_eq hadvance hadvance'⟩
  rw [htokens, htokens', List.append_assoc]

/-- One token that is found and taken. -/
lemma Leads.step {r r' : Reading} {t : Token}
    (hscan : ∀ offset, ∃ offset', Scans ⟨r.rest, r.inside, offset⟩ t ⟨r'.rest, r'.inside, offset'⟩)
    (haccept : Accepts r.progress t r'.progress) : Leads r r' := by
  intro offset
  obtain ⟨offset', h⟩ := hscan offset
  refine ⟨offset', [t], tokens_of_scans h, ?_⟩
  rw [advance_cons_eq_ok]
  exact ⟨_, step_of_accepts haccept, rfl⟩

/-- A template whose reading leads to its end reads as what has been read by then. -/
lemma parse_of_leads {template : String} {inside : Bool} {p : Progress}
    (h : Leads ⟨template.toList, false, {}⟩ ⟨[], inside, p⟩) : parse template = p.finish := by
  obtain ⟨offset, ts, htokens, hadvance⟩ := h 0
  have hend : (⟨[], inside, offset⟩ : Scanner).tokens = [] :=
    Scanner.tokens_of_next?_eq_none (next?_eq_none_iff.mpr (.inl rfl))
  rw [hend, List.append_nil] at htokens
  rw [parse, readStatements, readFrom_fst, tokenize, Scanner.start, htokens, hadvance]
  rfl

/-! ## Pieces of a template -/

section pieces

variable {block : List Statement} {os : List OpenConditional} {rest : List Char}

/-- A text before a bracket or the end. -/
lemma leads_text {content : String} (hc : IsTextContent content)
    (hr : rest = [] ∨ openChars <+: rest) :
    Leads ⟨content.toList ++ rest, false, ⟨block, os, .statement⟩⟩
      ⟨rest, false, ⟨block ++ [.text content], os, .statement⟩⟩ := by
  have hne : content.toList ≠ [] := by simpa using hc.1
  have hscan (offset : Nat) : Scans ⟨content.toList ++ rest, false, offset⟩ (.text content)
      ⟨rest, false, offset + content.toList.length⟩ := by
    have : Scans ⟨content.toList ++ rest, false, offset⟩ _ _ := .text hne hc.2 hr
    rwa [String.ofList_toList] at this
  exact .step (fun offset => ⟨_, hscan offset⟩) (.text rfl)

/-- An opening bracket. -/
lemma leads_open :
    Leads ⟨'{' :: '%' :: rest, false, ⟨block, os, .statement⟩⟩
      ⟨rest, true, ⟨block, os, .statement⟩⟩ :=
  .step (fun _ => ⟨_, .openBracket⟩) (.bracket rfl)

/-- A closing bracket behind blanks. -/
lemma leads_close {gap : List Char} (hgap : ∀ c ∈ gap, isBlank c = true) :
    Leads ⟨gap ++ '%' :: '}' :: rest, true, ⟨block, os, .statement⟩⟩
      ⟨rest, false, ⟨block, os, .statement⟩⟩ :=
  .step (fun _ => ⟨_, .closeBracket hgap⟩) (.bracket rfl)

/-- A word behind blanks. -/
lemma leads_word {p p' : Progress} {gap : List Char} {w : String}
    (hgap : ∀ c ∈ gap, isBlank c = true) (hw : IsWord w) (hend : EndsWord rest)
    (haccept : Accepts p (.ofWord w) p') :
    Leads ⟨gap ++ (w.toList ++ rest), true, p⟩ ⟨rest, true, p'⟩ := by
  obtain ⟨c, cs, hcs, hstart, hword⟩ := hw
  have hw : w = String.ofList (c :: cs) := by rw [← hcs, String.ofList_toList]
  rw [hcs]
  refine .step (fun offset => ⟨_, .word hgap hstart hword hend⟩) ?_
  rwa [← hw]

/-- One blank. -/
lemma isBlank_space : ∀ c ∈ [' '], isBlank c = true :=
  List.forall_mem_singleton.mpr (by decide)

/-- Nothing. -/
lemma isBlank_nothing : ∀ c ∈ ([] : List Char), isBlank c = true := by
  simp

/-- A blank ends a word. -/
lemma endsWord_space (cs : List Char) : EndsWord (' ' :: cs) := by
  intro c ds h
  obtain ⟨rfl, -⟩ := List.cons.inj h
  exact isNameChar_of_isBlank (isBlank_space ' ' List.mem_cons_self)

/-- Every keyword is a word. -/
lemma isWord_of_keyword {w : String} (h : w ∈ ["if", "else", "endif"]) : IsWord w := by
  have hstart : isNameStart 'i' && isNameStart 'e' = true := by decide
  have hrest : ['f', 'l', 's', 'e', 'n', 'd', 'i'].all isNameChar = true := by decide
  simp only [Bool.and_eq_true] at hstart
  simp only [List.all_cons, List.all_nil, Bool.and_eq_true] at hrest
  simp only [List.mem_cons, List.not_mem_nil, or_false] at h
  rcases h with rfl | rfl | rfl
  · exact ⟨'i', ['f'], rfl, hstart.1, by simp [hrest]⟩
  · exact ⟨'e', ['l', 's', 'e'], rfl, hstart.2, by simp [hrest]⟩
  · exact ⟨'e', ['n', 'd', 'i', 'f'], rfl, hstart.2, by simp [hrest]⟩

/-- A directive that holds one word. -/
lemma leads_directive {block' : List Statement} {os' : List OpenConditional} {w : String}
    (hw : IsWord w)
    (haccept : Accepts ⟨block, os, .statement⟩ (.ofWord w) ⟨block', os', .statement⟩) :
    Leads ⟨directive w ++ rest, false, ⟨block, os, .statement⟩⟩
      ⟨rest, false, ⟨block', os', .statement⟩⟩ := by
  have hword := leads_word isBlank_space hw (endsWord_space ('%' :: '}' :: rest)) haccept
  have hclose : Leads ⟨' ' :: '%' :: '}' :: rest, true, ⟨block', os', .statement⟩⟩ _ :=
    leads_close isBlank_space
  have hwords := leads_open.trans (hword.trans hclose)
  simpa [directive] using hwords

/-- A directive begins with a bracket. -/
lemma openChars_prefix_directive (w : String) (cs : List Char) : openChars <+: directive w ++ cs :=
  ⟨' ' :: w.toList ++ [' ', '%', '}'] ++ cs, by simp [openChars, directive]⟩

/-- The directive that opens a conditional. -/
lemma leads_condition {name : String} (hname : IsVariableName name) (negated : Bool) :
    Leads ⟨directive (conditionWords name negated) ++ rest, false, ⟨block, os, .statement⟩⟩
      ⟨rest, false, ⟨[], ⟨name, negated, block, none⟩ :: os, .statement⟩⟩ := by
  have hif : IsWord "if" := isWord_of_keyword (by simp)
  have haccept (g : Bool) : Accepts ⟨block, os, .condition g⟩ (.ofWord name)
      ⟨[], ⟨name, g, block, none⟩ :: os, .statement⟩ := by
    rw [ofWord_of_not_mem hname.2]
    exact .conditionName rfl
  have hclose : Leads ⟨' ' :: '%' :: '}' :: rest, true,
      ⟨[], ⟨name, negated, block, none⟩ :: os, .statement⟩⟩ _ := leads_close isBlank_space
  have hhead (cs : List Char) : Leads ⟨'{' :: '%' :: ' ' :: 'i' :: 'f' :: ' ' :: cs, false,
      ⟨block, os, .statement⟩⟩ ⟨' ' :: cs, true, ⟨block, os, .condition false⟩⟩ :=
    leads_open.trans (leads_word isBlank_space hif (endsWord_space cs) (.ifWord rfl))
  cases negated with
  | false =>
      have hword := leads_word isBlank_space hname.1 (endsWord_space ('%' :: '}' :: rest))
        (haccept false)
      have := (hhead _).trans (hword.trans hclose)
      simpa [directive, conditionWords] using this
  | true =>
      have hbang (cs : List Char) : Leads ⟨' ' :: '!' :: cs, true, ⟨block, os, .condition false⟩⟩
          ⟨cs, true, ⟨block, os, .condition true⟩⟩ :=
        .step (fun _ => ⟨_, .bang isBlank_space⟩) (.bang rfl)
      have hword := leads_word isBlank_nothing hname.1 (endsWord_space ('%' :: '}' :: rest))
        (haccept true)
      have := (hhead _).trans ((hbang _).trans (hword.trans hclose))
      simpa [directive, conditionWords] using this

/-- A conditional without an `else` clause, if its branch is read as some statements in front of any
directive. -/
lemma leads_choice {name : String} {branch : List Char} {T : List Statement}
    (hname : IsVariableName name) (negated : Bool)
    (hthen : ∀ rest os, openChars <+: rest →
      Leads ⟨branch ++ rest, false, ⟨[], os, .statement⟩⟩ ⟨rest, false, ⟨T, os, .statement⟩⟩) :
    Leads ⟨directive (conditionWords name negated) ++ (branch ++ (directive "endif" ++ rest)), false,
        ⟨block, os, .statement⟩⟩
      ⟨rest, false, ⟨block ++ [.conditional name negated T none], os, .statement⟩⟩ := by
  have hcondition : Leads _ ⟨branch ++ (directive "endif" ++ rest), _,
      ⟨[], ⟨name, negated, block, none⟩ :: os, .statement⟩⟩ := leads_condition hname negated
  have hbranch := hthen _ (⟨name, negated, block, none⟩ :: os)
    (openChars_prefix_directive "endif" rest)
  have hend : Leads ⟨directive "endif" ++ rest, false,
      ⟨T, ⟨name, negated, block, none⟩ :: os, .statement⟩⟩ _ :=
    leads_directive (isWord_of_keyword (by simp)) (.endifWord rfl)
  exact hcondition.trans (hbranch.trans hend)

/-- A conditional with an `else` clause, if each of its branches is read as some statements in front of
any directive. -/
lemma leads_choiceElse {name : String} {first second : List Char} {T F : List Statement}
    (hname : IsVariableName name) (negated : Bool)
    (hthen : ∀ rest os, openChars <+: rest →
      Leads ⟨first ++ rest, false, ⟨[], os, .statement⟩⟩ ⟨rest, false, ⟨T, os, .statement⟩⟩)
    (helse : ∀ rest os, openChars <+: rest →
      Leads ⟨second ++ rest, false, ⟨[], os, .statement⟩⟩ ⟨rest, false, ⟨F, os, .statement⟩⟩) :
    Leads ⟨directive (conditionWords name negated) ++ (first ++ (directive "else" ++
        (second ++ (directive "endif" ++ rest)))), false, ⟨block, os, .statement⟩⟩
      ⟨rest, false, ⟨block ++ [.conditional name negated T (some F)], os, .statement⟩⟩ := by
  have hcondition : Leads _ ⟨first ++ (directive "else" ++ (second ++ (directive "endif" ++ rest))), _,
      ⟨[], ⟨name, negated, block, none⟩ :: os, .statement⟩⟩ := leads_condition hname negated
  have hfirst := hthen _ (⟨name, negated, block, none⟩ :: os)
    (openChars_prefix_directive "else" (second ++ (directive "endif" ++ rest)))
  have hturn : Leads ⟨directive "else" ++ (second ++ (directive "endif" ++ rest)), false,
      ⟨T, ⟨name, negated, block, none⟩ :: os, .statement⟩⟩ _ :=
    leads_directive (isWord_of_keyword (by simp)) (.elseWord rfl)
  have hsecond := helse _ (⟨name, negated, block, some T⟩ :: os)
    (openChars_prefix_directive "endif" rest)
  have hend : Leads ⟨directive "endif" ++ rest, false,
      ⟨F, ⟨name, negated, block, some T⟩ :: os, .statement⟩⟩ _ :=
    leads_directive (isWord_of_keyword (by simp)) (.endifWordElse rfl)
  exact hcondition.trans (hfirst.trans (hturn.trans (hsecond.trans hend)))

/-- An empty directive. -/
lemma leads_emptyDirective :
    Leads ⟨['{', '%', '%', '}'] ++ rest, false, ⟨block, os, .statement⟩⟩
      ⟨rest, false, ⟨block, os, .statement⟩⟩ :=
  leads_open.trans (leads_close isBlank_nothing)

/-- What separates two statements is passed over. -/
lemma leads_separator (s : Statement) (ss : List Statement) :
    Leads ⟨separator s ss ++ rest, false, ⟨block, os, .statement⟩⟩
      ⟨rest, false, ⟨block, os, .statement⟩⟩ := by
  unfold separator
  split
  · exact leads_emptyDirective
  · exact .refl _

end pieces

/-! ## What is printed reads back -/

/-- Behind a text come statements that begin with a bracket, or nothing before what follows. -/
lemma separator_printAll_starts {ss : List Statement} (hss : Printable ss) (content : String)
    {rest : List Char} (hr : rest = [] ∨ openChars <+: rest) :
    separator (.text content) ss ++ (printAll ss ++ rest) = [] ∨
      openChars <+: separator (.text content) ss ++ (printAll ss ++ rest) := by
  match ss, hss with
  | [], _ => simpa [separator] using hr
  | .text content' :: ss, _ =>
      exact .inr ⟨['%', '}'] ++ (printAll (.text content' :: ss) ++ rest),
        by simp [openChars, separator]⟩
  | .variable name :: ss, _ =>
      right
      simpa [separator] using openChars_prefix_directive name (printAll ss ++ rest)
  | .conditional name negated T none :: ss, _ =>
      right
      simpa [separator] using openChars_prefix_directive (conditionWords name negated)
        (printAll T ++ (directive "endif" ++ (printAll ss ++ rest)))
  | .conditional name negated T (some F) :: ss, _ =>
      right
      simpa [separator] using openChars_prefix_directive (conditionWords name negated)
        (printAll T ++ (directive "else" ++ (printAll F ++
          (directive "endif" ++ (printAll ss ++ rest)))))
  | .foreign typeName :: ss, hss => exact absurd (allBuiltFrom_cons.mp hss).1 not_builtFrom_foreign

/-- Scanner and reader come from printed statements in front of a bracket or the end to these
statements. The induction is over all depths at once: the branches of a conditional stand in front
of a directive, so what follows them is a bracket again. -/
lemma leads_printAll {S : List Statement} (hS : Printable S) {rest : List Char}
    (hr : rest = [] ∨ openChars <+: rest) (block : List Statement) (os : List OpenConditional) :
    Leads ⟨printAll S ++ rest, false, ⟨block, os, .statement⟩⟩
      ⟨rest, false, ⟨block ++ S, os, .statement⟩⟩ := by
  induction S using statements_induction generalizing rest block os with
  | nil => simpa using Leads.refl _
  | text content ss ih =>
      obtain ⟨hc, hss⟩ := allBuiltFrom_cons.mp hS
      have htext : Leads _ ⟨_, _, ⟨block ++ [.text content], os, .statement⟩⟩ :=
        leads_text (builtFrom_text.mp hc) (separator_printAll_starts hss content hr)
      have hrest := ih hss hr (block ++ [.text content]) os
      simpa using htext.trans ((leads_separator (.text content) ss).trans hrest)
  | name n ss ih =>
      obtain ⟨hn, hss⟩ := allBuiltFrom_cons.mp hS
      have hname := builtFrom_variable.mp hn
      have haccept : Accepts ⟨block, os, .statement⟩ (.ofWord n)
          ⟨block ++ [.variable n], os, .statement⟩ := by
        rw [ofWord_of_not_mem hname.2]
        exact .name rfl
      have hrest := ih hss hr (block ++ [.variable n]) os
      simpa [separator] using (leads_directive hname.1 haccept).trans hrest
  | choice n negated T ss ihT ih =>
      obtain ⟨hs, hss⟩ := allBuiltFrom_cons.mp hS
      obtain ⟨hname, hT⟩ := builtFrom_choice.mp hs
      have hchoice : Leads _ ⟨printAll ss ++ rest, _,
          ⟨block ++ [.conditional n negated T none], os, .statement⟩⟩ :=
        leads_choice hname negated fun rest os hr => ihT hT (.inr hr) [] os
      have hrest := ih hss hr (block ++ [.conditional n negated T none]) os
      simpa [separator] using hchoice.trans hrest
  | choiceElse n negated T F ss ihT ihF ih =>
      obtain ⟨hs, hss⟩ := allBuiltFrom_cons.mp hS
      obtain ⟨hname, hT, hF⟩ := builtFrom_choiceElse.mp hs
      have hchoice : Leads _ ⟨printAll ss ++ rest, _,
          ⟨block ++ [.conditional n negated T (some F)], os, .statement⟩⟩ :=
        leads_choiceElse hname negated (fun rest os hr => ihT hT (.inr hr) [] os)
          fun rest os hr => ihF hF (.inr hr) [] os
      have hrest := ih hss hr (block ++ [.conditional n negated T (some F)]) os
      simpa [separator] using hchoice.trans hrest
  | foreign typeName ss ih => exact absurd (allBuiltFrom_cons.mp hS).1 not_builtFrom_foreign

/-- Printed statements read back. -/
lemma parse_print {S : List Statement} (hS : Printable S) : parse (print S) = .ok S := by
  have h := leads_printAll hS (.inl rfl) [] []
  rw [List.append_nil] at h
  have htemplate : (print S).toList = printAll S := by rw [print, String.toList_ofList]
  rw [← htemplate] at h
  exact parse_of_leads h

/-! ## What is read can be printed -/

/-- Every text that the scanner finds is one that can be printed, and so is every name. -/
lemma printable_of_mem_tokens (s : Scanner) {t : Token} (ht : t ∈ s.tokens) :
    (t.kind = .text → IsTextContent t.value) ∧ (t.kind = .variable → IsVariableName t.value) := by
  induction s using scanner_induction with
  | done s h =>
      rw [Scanner.tokens_of_next?_eq_none h] at ht
      cases ht
  | scan s u s' h ih =>
      rw [tokens_of_scans h] at ht
      rcases List.mem_cons.mp ht with rfl | ht
      · cases h with
        | openBracket | closeBracket _ | bang _ | invalid _ _ _ _ _ =>
            exact ⟨by rintro ⟨⟩, by rintro ⟨⟩⟩
        | text hne hc hr =>
            refine ⟨fun _ => ⟨?_, ?_⟩, by rintro ⟨⟩⟩
            · simpa [Token.text] using hne
            · simpa [Token.text] using hc
        | @word gap c cs rest offset hgap hstart hword hend =>
            refine ⟨fun hk => ?_, fun hk => ?_⟩
            · have hmem := kind_ofWord (String.ofList (c :: cs))
              rw [hk] at hmem
              exact absurd hmem (by decide)
            · obtain ⟨hkeyword, hvalue⟩ := not_mem_of_kind_ofWord hk
              rw [hvalue]
              exact ⟨⟨c, cs, String.toList_ofList, hstart, hword⟩, hkeyword⟩
      · exact ih ht

/-- The statements of a template can be printed. -/
lemma printable_of_parse {template : String} {S : List Statement} (h : parse template = .ok S) :
    Printable S :=
  allBuiltFrom_of_readStatements (fun _ ht => (printable_of_mem_tokens _ ht).1)
    (fun _ ht => (printable_of_mem_tokens _ ht).2) h

/-- **Printing and reading.** Printable statements are what their template reads as. The statements
that any template reads as are printable, so printing them gives a template that reads as the same
statements and renders as the first one does, under all bindings. -/
theorem parse_print_and_printable :
    (∀ S, Printable S → parse (print S) = .ok S) ∧
      ∀ template S, parse template = .ok S →
        Printable S ∧ parse (print S) = .ok S ∧ ∀ b, render (print S) b = render template b := by
  refine ⟨fun S hS => parse_print hS, ?_⟩
  intro template S h
  have hS := printable_of_parse h
  have hprint := parse_print hS
  refine ⟨hS, hprint, fun b => ?_⟩
  rw [render, render, hprint, h]

/-- A template with a text that ends like a bracket begins, two texts in a row, a `!`, and an `else`
clause without statements. -/
def crampedTemplate : String :=
  "a\x7b\x7b%%\x7d%\x7d\x7b%if!x%\x7d\x7b\x7b%else%\x7d\x7b%endif%\x7d"

/-- The tokens of `crampedTemplate`. -/
def crampedTokens : List Token :=
  [.text "a\x7b", .openBracket, .closeBracket, .text "%\x7d", .openBracket, .ofWord "if", .bang,
    .ofWord "x", .closeBracket, .text "\x7b", .openBracket, .ofWord "else", .closeBracket,
    .openBracket, .ofWord "endif", .closeBracket]

/-- The statements of `crampedTemplate`. -/
def crampedStatements : List Statement :=
  [.text "a\x7b", .text "%\x7d", .conditional "x" true [.text "\x7b"] (some [])]

/-- A template without blanks and its printed form are read alike and render alike. -/
theorem parse_print_crampedStatements :
    Printable crampedStatements ∧ parse (print crampedStatements) = .ok crampedStatements ∧
      parse crampedTemplate = .ok crampedStatements ∧
      render (print crampedStatements) {} = render crampedTemplate {} := by
  have htokens : tokenize crampedTemplate = crampedTokens := by decide +kernel
  have hparse : parse crampedTemplate = .ok crampedStatements := by
    rw [parse, htokens]
    rfl
  have hname : IsVariableName "x" := ⟨⟨'x', [], rfl, by decide, by simp⟩, by decide⟩
  have htext : IsTextContent "a\x7b" ∧ IsTextContent "%\x7d" ∧ IsTextContent "\x7b" :=
    ⟨⟨by decide, by decide⟩, ⟨by decide, by decide⟩, ⟨by decide, by decide⟩⟩
  have hS : Printable crampedStatements := by
    simp [Printable, crampedStatements, htext, hname]
  exact ⟨hS, parse_print_and_printable.1 _ hS, hparse,
    (parse_print_and_printable.2 _ _ hparse).2.2 {}⟩

end Scaffold.Template
