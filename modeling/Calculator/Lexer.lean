import Calculator.Numeral
import Calculator.Text.Classes
import Calculator.Token

/-!
Tokens of a text. A cursor holds what is left of the text, the number of characters passed and the
place reached; `next` skips blanks and takes the longest number or identifier that begins there, or
one character as a symbol.
-/

namespace Calculator

structure Cursor where
  rest : List Char
  offset : Nat
  position : Position
deriving DecidableEq, Repr

namespace Cursor

def ofText (text : List Char) : Cursor := ⟨text, 0, .start⟩

def advance (cursor : Cursor) : Cursor :=
  match cursor.rest with
  | [] => ⟨[], cursor.offset + 1, cursor.position.right 1⟩
  | c :: rest => ⟨rest, cursor.offset + 1, cursor.position.after c⟩

def span (p : Char → Bool) (cursor : Cursor) : List Char := cursor.rest.takeWhile p

def skip (p : Char → Bool) (cursor : Cursor) : Cursor :=
  ⟨cursor.rest.dropWhile p, cursor.offset + (cursor.span p).length,
    cursor.position.past (cursor.span p)⟩

def number (cursor : Cursor) : Except Numeral.Error Token × Cursor :=
  ((Numeral.read (cursor.span isDigit)).map fun n => ⟨.number n, cursor.position⟩,
    cursor.skip isDigit)

def identifier (cursor : Cursor) : Token × Cursor :=
  (⟨.identifier (String.ofList (cursor.span isWordPart)), cursor.position⟩,
    cursor.skip isWordPart)

def skipBlanks (cursor : Cursor) : Cursor := cursor.skip isBlank

def next (cursor : Cursor) : Except Numeral.Error Token × Cursor :=
  let cursor := cursor.skipBlanks
  match cursor.rest with
  | [] => (.ok ⟨.ending, cursor.position⟩, cursor)
  | c :: _ =>
    if isDigit c then cursor.number
    else if isLetter c then (.ok cursor.identifier.1, cursor.identifier.2)
    else (.ok ⟨.symbol (String.singleton c), cursor.position⟩, cursor.advance)

theorem skip_length (p : Char → Bool) (cursor : Cursor) :
    (cursor.skip p).rest.length + (cursor.span p).length = cursor.rest.length := by
  have h := congrArg List.length (List.takeWhile_append_dropWhile (p := p) (l := cursor.rest))
  simp only [List.length_append] at h
  simp only [skip, span]
  omega

theorem skip_shorter {p : Char → Bool} {cursor : Cursor} {c : Char} {rest : List Char}
    (h : cursor.rest = c :: rest) (hc : p c = true) :
    (cursor.skip p).rest.length < cursor.rest.length := by
  have hl := skip_length p cursor
  have hs : 0 < (cursor.span p).length := by simp [span, h, hc]
  omega

theorem next_shorter {cursor after : Cursor} {token : Token}
    (h : cursor.next = (.ok token, after)) (ht : token.lexeme ≠ .ending) :
    after.rest.length < cursor.rest.length := by
  have hl := skip_length isBlank cursor
  simp only [next, skipBlanks] at h
  split at h
  · obtain ⟨rfl, rfl⟩ := by simpa using h
    exact absurd rfl ht
  · rename_i c rest hr
    split at h
    · rename_i hd
      have hn := skip_shorter hr hd
      have ha : after = (cursor.skip isBlank).skip isDigit := (congrArg Prod.snd h).symm
      subst ha
      omega
    · split at h
      · rename_i hd
        have hn := skip_shorter hr (isWordPart_of_isLetter hd)
        have ha : after = (cursor.skip isBlank).skip isWordPart := (congrArg Prod.snd h).symm
        subst ha
        omega
      · have ha : after = (cursor.skip isBlank).advance := (congrArg Prod.snd h).symm
        subst ha
        simp only [advance, hr]
        simp only [hr, List.length_cons] at hl
        omega

inductive Command where
  | advance
  | skipBlanks
  | number
  | identifier
  | next
  | position
deriving DecidableEq, Repr

inductive Response where
  | nothing
  | token (result : Except Numeral.Error Token)
  | position (position : Position)

def perform (cursor : Cursor) : Command → Response × Cursor
  | .advance => (.nothing, cursor.advance)
  | .skipBlanks => (.nothing, cursor.skipBlanks)
  | .number => (.token cursor.number.1, cursor.number.2)
  | .identifier => (.token (.ok cursor.identifier.1), cursor.identifier.2)
  | .next => (.token cursor.next.1, cursor.next.2)
  | .position => (.position cursor.position, cursor)

def tokens (cursor : Cursor) : List Token × Option Numeral.Error :=
  match h : cursor.next with
  | (.error e, _) => ([], some e)
  | (.ok token, after) =>
    if ht : token.lexeme = .ending then ([], none)
    else
      have := next_shorter h ht
      let later := after.tokens
      (token :: later.1, later.2)
termination_by cursor.rest.length

end Cursor

structure Scan where
  tokens : List Token
  failure : Option Numeral.Error
deriving Repr

namespace Scan

def ofText (text : String) : Scan :=
  let (tokens, failure) := (Cursor.ofText text.toList).tokens
  ⟨tokens, failure⟩

def result (scan : Scan) : Except Numeral.Error (List Token) :=
  match scan.failure with
  | none => .ok scan.tokens
  | some e => .error e

end Scan

end Calculator
