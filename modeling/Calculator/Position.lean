namespace Calculator

structure Position where
  line : Int
  column : Int
deriving DecidableEq, Repr, Inhabited

namespace Position

def start : Position := ⟨1, 0⟩

def right (p : Position) (n : Nat) : Position := ⟨p.line, p.column + n⟩

def after (p : Position) (c : Char) : Position :=
  if c = '\n' then ⟨p.line + 1, 1⟩ else p.right 1

def past (p : Position) (cs : List Char) : Position := cs.foldl after p

def text (p : Position) : String := toString p.line ++ ":" ++ toString p.column

@[simp] theorem past_nil (p : Position) : p.past [] = p := rfl

@[simp] theorem past_cons (p : Position) (c : Char) (cs : List Char) :
    p.past (c :: cs) = (p.after c).past cs := rfl

theorem past_append (p : Position) (cs ds : List Char) :
    p.past (cs ++ ds) = (p.past cs).past ds := List.foldl_append ..

theorem after_newline (p : Position) : p.after '\n' = ⟨p.line + 1, 1⟩ := rfl

theorem after_of_ne {p : Position} {c : Char} (h : c ≠ '\n') : p.after c = p.right 1 := if_neg h

theorem past_of_no_newline {cs : List Char} (h : '\n' ∉ cs) (p : Position) :
    p.past cs = p.right cs.length := by
  induction cs generalizing p with
  | nil => simp [right]
  | cons c cs ih =>
    have hc : c ≠ '\n' := fun e => h (e ▸ List.mem_cons_self)
    have hcs : '\n' ∉ cs := fun e => h (List.mem_cons_of_mem _ e)
    rw [past_cons, after_of_ne hc, ih hcs]
    simp only [right, List.length_cons, Position.mk.injEq, true_and]
    omega

end Position

end Calculator
