import AardvarkWms.Separators
import Mathlib.Algebra.Order.Ring.Int
import Mathlib.Tactic.Positivity

/-! What the content of a page shows, and how high on the page, when each of its operators stands on a
line of its own. -/
namespace PageContent

abbrev Text : Type := List Char

def isDelimiter (c : Char) : Bool := c= '\\' || c= '(' || c= ')'

/-- What ends a literal stands in it behind a backslash. -/
def literal (s : Text) : Text := s.flatMap fun c => if isDelimiter c then ['\\',c] else [c]

/-- A literal up to the parenthesis that closes it, and what follows; the flag says that a backslash
is before. -/
def readLiteral : Bool → Text → Option (Text × Text)
  | _,[] => none
  | true,c::s => if isDelimiter c then (readLiteral false s).map fun r => (c::r.1,r.2) else none
  | false,c::s =>
    if c= ')' then some ([],s)
    else if c= '(' then none
    else if c= '\\' then readLiteral true s
    else (readLiteral false s).map fun r => (c::r.1,r.2)

theorem readLiteral_literal (s rest : Text) :
    readLiteral false (literal s++ ')'::rest)=some (s,rest) := by
  induction s with
  | nil => rfl
  | cons c s ih =>
    cases hc : isDelimiter c with
    | true =>
      have hshown : literal (c::s)++ ')'::rest= '\\'::c::(literal s++ ')'::rest) := by
        simp [literal,hc]
      rw [hshown,readLiteral,if_neg (by decide),if_neg (by decide),if_pos rfl,readLiteral,if_pos hc,ih]
      rfl
    | false =>
      have hshown : literal (c::s)++ ')'::rest=c::(literal s++ ')'::rest) := by
        simp [literal,hc]
      simp only [isDelimiter,Bool.or_eq_false_iff,decide_eq_false_iff_not] at hc
      rw [hshown,readLiteral,if_neg hc.2,if_neg hc.1.2,if_neg hc.1.1,ih]
      rfl

theorem mem_literal {s : Text} {c : Char} (h : c∈literal s) : c∈s ∨ c= '\\' := by
  obtain ⟨d,hd,hc⟩ := List.mem_flatMap.mp h
  split at hc
  · cases List.mem_cons.mp hc with
    | inl hslash => exact Or.inr hslash
    | inr hsame => exact Or.inl (List.mem_singleton.mp hsame ▸ hd)
  · exact Or.inl (List.mem_singleton.mp hc ▸ hd)

/-- What a line of the content does: it shows a text, or moves to where the next one begins. -/
inductive Operator
  | shows (text : Text)
  | moves (dx dy : ℤ)
  | other
  deriving DecidableEq

def readNatural (s : Text) : ℕ := s.foldl (fun n c => 10*n+(c.toNat-48)) 0

def readInteger (s : Text) : ℤ :=
  match s with
  | [] => 0
  | c::digits => if c= '-' then -(readNatural digits : ℤ) else readNatural (c::digits)

def readOperator (line : Text) : Operator :=
  match line with
  | [] => .other
  | c::s =>
    if c= '(' then
      match readLiteral false s with
      | some (text,rest) => if rest=" Tj".toList then .shows text else .other
      | none => .other
    else
      match (c::s).splitOn ' ' with
      | [x,y,operator] =>
        if operator="Td".toList then .moves (readInteger x) (readInteger y) else .other
      | _ => .other

/-- The line that shows a text. -/
def showLine (s : Text) : Text := '('::literal s++") Tj".toList

theorem readOperator_showLine (s : Text) : readOperator (showLine s)=.shows s := by
  have hread : readLiteral false (literal s++ ')'::" Tj".toList)=some (s," Tj".toList) :=
    readLiteral_literal s _
  have hline : showLine s= '('::(literal s++ ')'::" Tj".toList) := rfl
  rw [hline,readOperator,if_pos rfl,hread]
  exact if_pos rfl

/-- The texts that the lines show, each with its height. -/
def placed : ℤ → List Text → List (ℤ × Text)
  | _,[] => []
  | y,line::lines =>
    match readOperator line with
    | .shows text => (y,text)::placed y lines
    | .moves _ dy => placed (y+dy) lines
    | .other => placed y lines

theorem placed_other {y : ℤ} {line : Text} {lines : List Text} (h : readOperator line=.other) :
    placed y (line::lines)=placed y lines := by
  rw [placed,h]

theorem placed_moves {y dx dy : ℤ} {line : Text} {lines : List Text}
    (h : readOperator line=.moves dx dy) : placed y (line::lines)=placed (y+dy) lines := by
  rw [placed,h]

theorem placed_shows {y : ℤ} {s : Text} {lines : List Text} :
    placed y (showLine s::lines)=(y,s)::placed y lines := by
  rw [placed,readOperator_showLine]

/-- The texts of a content; only those on the page where that is asked. -/
def shownTexts (onPage : Bool) (content : Text) : List Text :=
  ((placed 0 (content.splitOn '\n')).filter fun e => !onPage || 0≤e.1).map (·.2)

section Columns
variable {y dx dy : ℤ} {step : Text} {rows : List Text} {k n : ℕ}

/-- Texts one under another. -/
def column (dy : ℤ) : ℤ → List Text → List (ℤ × Text)
  | _,[] => []
  | y,row::rows => (y,row)::column dy (y+dy) rows

theorem placed_column (hstep : readOperator step=.moves dx dy) (rows : List Text) : ∀ y,
    placed y ((rows.flatMap fun row => [showLine row,step])++["ET".toList])=column dy y rows := by
  have hend : readOperator "ET".toList=.other := by decide
  induction rows with
  | nil =>
    intro y
    exact placed_other hend
  | cons row rows ih =>
    intro y
    rw [List.flatMap_cons,List.append_assoc]
    have hrow : ∀ lines, placed y (showLine row::step::lines)=(y,row)::placed (y+dy) lines := by
      intro lines
      rw [placed_shows,placed_moves hstep]
    exact (hrow _).trans (congrArg _ (ih (y+dy)))

theorem column_texts (rows : List Text) : ∀ y, (column dy y rows).map (·.2)=rows := by
  induction rows with
  | nil => exact fun _ => rfl
  | cons row rows ih => exact fun y => congrArg (row::·) (ih (y+dy))

theorem column_onPage (rows : List Text) : ∀ (y : ℤ) (n : ℕ), y < k*n → (n=0 ∨ (k*n : ℤ)≤y+k) →
    ((column (-k) y rows).filter fun e => 0≤e.1).map (·.2)=rows.take n := by
  induction rows with
  | nil =>
    intro y n _ _
    rw [List.take_nil]
    rfl
  | cons row rows ih =>
    intro y n hbelow hroom
    cases n with
    | zero =>
      have hy : y < 0 := by simpa using hbelow
      have hrest := ih (y+(-k)) 0 (by simp; omega) (Or.inl rfl)
      rw [List.take_zero] at hrest ⊢
      rw [column,List.filter_cons_of_neg (by simpa using hy),hrest]
    | succ n =>
      have hle := hroom.resolve_left (Nat.succ_ne_zero n)
      push_cast at hbelow hle
      rw [mul_add,mul_one] at hbelow hle
      have hy : 0≤y := by
        have hpos : (0 : ℤ)≤k*n := by positivity
        omega
      have hrest := ih (y+(-k)) n (by omega) (by omega)
      rw [column,List.filter_cons_of_pos (by simpa using hy),List.map_cons,hrest,List.take_succ_cons]

end Columns

end PageContent
