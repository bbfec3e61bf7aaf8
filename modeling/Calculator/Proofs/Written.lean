import Calculator.Proofs.Grammar
import Calculator.Proofs.Lexing
import Calculator.Tree.Fragments

namespace Calculator

open Grammar

def Lexed (lexeme : Lexeme) : Prop :=
  ∃ text tokens, (Scan.ofText text).result = .ok tokens ∧ lexeme ∈ tokens.map Token.lexeme

theorem tokens_of_result {text : String} {tokens : List Token}
    (h : (Scan.ofText text).result = .ok tokens) :
    tokens = (Cursor.ofText text.toList).tokens.1 := by
  simp only [Scan.ofText, Scan.result] at h
  split at h
  · cases h
    rfl
  · cases h

theorem lexed_iff_source {lexeme : Lexeme} : Lexed lexeme ↔ ∃ source, Source lexeme source := by
  constructor
  · rintro ⟨text, tokens, h, hm⟩
    obtain ⟨token, ht, rfl⟩ := List.mem_map.mp hm
    rw [tokens_of_result h] at ht
    exact Cursor.source_of_mem_tokens _ token ht
  · rintro ⟨source, h⟩
    have hs : Spells (String.ofList source).toList [lexeme] [] := by
      rw [String.toList_ofList]
      exact spells_source h (lexeme.closes_of_head (by simp))
    obtain ⟨tokens, hr, hl⟩ := hs.scan
    exact ⟨String.ofList source, tokens, hr, by simp [hl]⟩

theorem lexed_number {n : Nat} (h : n < 10 ^ Numeral.maxDigits) : Lexed (.number n) :=
  lexed_iff_source.mpr ⟨_, source_digits n h⟩

namespace Tree

def Readable : Tree → Prop
  | leaf .absent => False
  | leaf (.number value _) => Lexed (.number value)
  | leaf (.identifier name _) => Lexed (.identifier name)
  | node o left right => o.symbol ∈ sums ++ products ∧ left.Readable ∧ right.Readable

def lexemes : Tree → List Lexeme
  | leaf .absent => []
  | leaf (.number value _) => [.number value]
  | leaf (.identifier name _) => [.identifier name]
  | node o left right =>
    .symbol "(" :: left.lexemes ++ .symbol o.symbol :: right.lexemes ++ [.symbol ")"]

end Tree

theorem source_symbol {symbol : String} (h : symbol ∈ "(" :: ")" :: (sums ++ products)) :
    Source (.symbol symbol) symbol.toList := by
  have hall : ['(', ')', '+', '-', '*', '/'].all
      (fun c => !isBlank c && !isDigit c && !isLetter c) = true := by decide +kernel
  obtain ⟨c, hm, rfl⟩ : ∃ c ∈ ['(', ')', '+', '-', '*', '/'], String.singleton c = symbol := by
    simpa [sums, products, eq_comm] using h
  have hc := List.all_eq_true.mp hall c hm
  simp only [Bool.and_eq_true, Bool.not_eq_true'] at hc
  obtain ⟨⟨hb, hd⟩, hl⟩ := hc
  rw [String.toList_singleton]
  exact .symbol hb hd hl

theorem spells_symbol {symbol : String} (h : symbol ∈ "(" :: ")" :: (sums ++ products))
    (rest : List Char) : Spells symbol.toList [.symbol symbol] rest :=
  spells_source (source_symbol h) trivial

theorem spells_lexed {lexeme : Lexeme} {rest : List Char} (h : Lexed lexeme)
    (hrest : ∀ c ∈ rest.head?, isWordPart c = false) :
    Spells lexeme.text.toList [lexeme] rest := by
  obtain ⟨source, hs⟩ := lexed_iff_source.mp h
  exact spells_source hs.text (lexeme.closes_of_head hrest)

theorem not_isWordPart_head {c : Char} (h : isWordPart c = false) (cs : List Char) :
    ∀ d ∈ (c :: cs).head?, isWordPart d = false := by
  intro d hd
  cases hd
  exact h

theorem spells_space (rest : List Char) : Spells [' '] [] rest :=
  spells_blanks (List.forall_mem_singleton.mpr (by decide +kernel))

namespace Tree

theorem render_node (o : Operator) (left right : Tree) : (node o left right).render.toList =
    "(".toList ++ (left.render.toList ++
      ([' '] ++ (o.symbol.toList ++ ([' '] ++ (right.render.toList ++ ")".toList))))) := by
  simp [render_eq, fragments, Operator.spaced, String.toList_append]

theorem render_leaf {l : Leaf} {text : String} (h : l.text? = some text) :
    (leaf l).render.toList = text.toList := by
  simp [render_eq, fragments, h]

theorem spells_node {o : Operator} {left right : Tree} (ho : o.symbol ∈ sums ++ products)
    (hl : ∀ {rest : List Char}, (∀ c ∈ rest.head?, isWordPart c = false) →
      Spells left.render.toList left.lexemes rest)
    (hr : ∀ {rest : List Char}, (∀ c ∈ rest.head?, isWordPart c = false) →
      Spells right.render.toList right.lexemes rest) (rest : List Char) :
    Spells (node o left right).render.toList (node o left right).lexemes rest := by
  have hspace (cs : List Char) : ∀ c ∈ (' ' :: cs).head?, isWordPart c = false :=
    not_isWordPart_head (by decide +kernel) cs
  have hend : ∀ c ∈ (")".toList ++ rest).head?, isWordPart c = false :=
    not_isWordPart_head (by decide +kernel) rest
  have hopen (cs : List Char) : Spells "(".toList [.symbol "("] cs := spells_symbol (by simp) cs
  have hclose (cs : List Char) : Spells ")".toList [.symbol ")"] cs := spells_symbol (by simp) cs
  have hsymbol (cs : List Char) : Spells o.symbol.toList [.symbol o.symbol] cs :=
    spells_symbol (List.mem_cons_of_mem _ (List.mem_cons_of_mem _ ho)) cs
  have hright := (hr hend).append (hclose rest)
  have hafter := (hsymbol _).append ((spells_space _).append hright)
  have hleft := (hl (hspace _)).append ((spells_space _).append hafter)
  have hall := (hopen _).append hleft
  rw [render_node]
  simpa [lexemes] using hall

theorem spells_render {t : Tree} (h : t.Readable) : ∀ {rest : List Char},
    (∀ c ∈ rest.head?, isWordPart c = false) → Spells t.render.toList t.lexemes rest := by
  induction t with
  | leaf l =>
    intro rest hrest
    cases l with
    | absent => exact h.elim
    | number value place =>
      have ht : (number value place).render.toList = (Lexeme.number value).text.toList :=
        render_leaf rfl
      rw [ht]
      exact spells_lexed h hrest
    | identifier name place =>
      have ht : (identifier name place).render.toList = (Lexeme.identifier name).text.toList :=
        render_leaf rfl
      rw [ht]
      exact spells_lexed h hrest
  | node o left right ihl ihr =>
    intro rest _
    obtain ⟨ho, hl, hr⟩ := h
    exact spells_node ho (ihl hl) (ihr hr) rest

theorem scan_render {t : Tree} (h : t.Readable) :
    ∃ tokens, (Scan.ofText t.render).result = .ok tokens ∧
      tokens.map Token.lexeme = t.lexemes := by
  have hs : Spells t.render.toList t.lexemes [] := spells_render h (by simp)
  exact hs.scan

end Tree

end Calculator
