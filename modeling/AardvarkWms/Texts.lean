import AardvarkWms.Messaging
import Mathlib.Data.List.DropRight

/-! What the language does with the letters of a text. -/
namespace AardvarkWms

open Messaging (Str trim isWhiteSpace)

theorem trim_trim (s : Str) : trim (trim s)=trim s := by
  have htrim : ∀ l, trim l=(l.dropWhile isWhiteSpace).rdropWhile isWhiteSpace :=
    fun _ => rfl
  rw [htrim (trim s),htrim s]
  set r := s.dropWhile isWhiteSpace with hr
  have hself : r.dropWhile isWhiteSpace=r := List.dropWhile_idempotent _ _
  have hprefix := List.rdropWhile_prefix isWhiteSpace r
  -- what is left at the end begins as `r` does
  have hleft : (r.rdropWhile isWhiteSpace).dropWhile isWhiteSpace=
      r.rdropWhile isWhiteSpace := by
    rw [List.dropWhile_eq_self_iff] at hself ⊢
    intro hlen
    have hfirst := hself (lt_of_lt_of_le hlen hprefix.length_le)
    have hsame := hprefix.getElem hlen
    simpa [hsame] using hfirst
  rw [hleft,List.rdropWhile_idempotent]

theorem trim_eq {s : Str} (hfirst : ∀ c∈s.head?, isWhiteSpace c=false)
    (hlast : ∀ c∈s.getLast?, isWhiteSpace c=false) : trim s=s := by
  have hdrop : ∀ s : Str, (∀ c∈s.head?, isWhiteSpace c=false) → s.dropWhile isWhiteSpace=s := by
    intro s hs
    cases s with
    | nil => rfl
    | cons a s => exact List.dropWhile_cons_of_neg (by simp [hs a rfl])
  unfold trim
  rw [hdrop s hfirst,hdrop s.reverse (by rw [List.head?_reverse]; exact hlast),List.reverse_reverse]

theorem trim_solid {s : Str} (h : ∀ c∈s, isWhiteSpace c=false) : trim s=s :=
  trim_eq (fun c hc => h c (List.mem_of_head? hc)) fun c hc => h c (List.mem_of_getLast? hc)

/-- The code units of a text. -/
def codeUnits (s : Str) : List ℕ :=
  s.flatMap fun c => if c.toNat < 65536 then [c.toNat]
    else [55296+(c.toNat-65536)/1024,56320+(c.toNat-65536)%1024]

/-- Half of a pair on its own is written as the replacement character. -/
def ofCodeUnits : List ℕ → Str
  | [] => []
  | [u] => [loneUnit u]
  | u::v::units =>
    if 55296≤u && u < 56320 && 56320≤v && v < 57344 then
      Char.ofNat (65536+(u-55296)*1024+(v-56320))::ofCodeUnits units
    else loneUnit u::ofCodeUnits (v::units)
where
  loneUnit (u : ℕ) : Char := if 55296≤u && u < 57344 then Char.ofNat 65533 else Char.ofNat u

theorem codeUnits_ascii {s : Str} (h : ∀ c∈s, c.toNat < 128) : codeUnits s=s.map Char.toNat := by
  induction s with
  | nil => rfl
  | cons c s ih =>
    have hc := h c List.mem_cons_self
    have hrest := ih fun c hc => h c (List.mem_cons_of_mem _ hc)
    unfold codeUnits at hrest ⊢
    rw [List.flatMap_cons,if_pos (by omega),hrest]
    rfl

theorem ofCodeUnits_ascii {s : Str} (h : ∀ c∈s, c.toNat < 128) : ofCodeUnits (s.map Char.toNat)=s := by
  have hlone : ∀ c : Char, c.toNat < 128 → ofCodeUnits.loneUnit c.toNat=c := by
    intro c hc
    unfold ofCodeUnits.loneUnit
    rw [if_neg (by simp; omega),Char.ofNat_toNat]
  induction s with
  | nil => rfl
  | cons c s ih =>
    have hc := h c List.mem_cons_self
    have hrest := ih fun c hc => h c (List.mem_cons_of_mem _ hc)
    cases s with
    | nil => exact congrArg (fun c => [c]) (hlone c hc)
    | cons c' s =>
      rw [List.map_cons,List.map_cons,ofCodeUnits,if_neg (by simp; omega),hlone c hc]
      exact congrArg (List.cons c) hrest

def isAscii (s : Str) : Bool := s.all fun c => c.toNat < 128

theorem of_ascii {c : Char} {p : Char → Bool} (hp : ∀ n < 128, p (Char.ofNat n)=true)
    (h : c.toNat < 128) : p c=true := by
  have hc := hp c.toNat h
  rwa [Char.ofNat_toNat] at hc

/-- Upper and lower case, of which only the part within ASCII is said. -/
structure Language where
  toUpperCase : Str → Str
  toLowerCase : Str → Str
  toUpperCase_ascii : ∀ s, isAscii s=true → toUpperCase s=s.map Char.toUpper
  toLowerCase_ascii : ∀ s, isAscii s=true → toLowerCase s=s.map Char.toLower

/-- The language of texts within ASCII. -/
def Language.ascii : Language where
  toUpperCase := fun s => s.map Char.toUpper
  toLowerCase := fun s => s.map Char.toLower
  toUpperCase_ascii := fun _ _ => rfl
  toLowerCase_ascii := fun _ _ => rfl

end AardvarkWms
