import AardvarkWms.Separators
import Mathlib.Data.Nat.Digits.Lemmas
import Mathlib.Tactic.SplitIfs

/-! Numbers as JavaScript writes them: the shortest digits, a point or an exponent. -/
namespace Numerals
open Separators

/-- A text's code units. -/
abbrev Text : Type := List UInt16

def unit (c : Char) : UInt16 := UInt16.ofNat c.toNat

def units (s : String) : Text := s.toList.map unit

/-- Digits that neither begin nor end with a zero. -/
structure Significand where
  digits : List (Fin 10)
  nonempty : digits≠[]
  first : digits.head?≠some 0
  last : digits.getLast?≠some 0

/-- What a number is: the value of `0.d₁d₂…` moved by `point` places. -/
inductive JsNumber
  | zero
  | finite (negative : Bool) (significand : Significand) (point : ℤ)
  | infinite (negative : Bool)

def digitUnit (d : Fin 10) : UInt16 := UInt16.ofNat (48+d.val)

def zeros (n : ℕ) : Text := List.replicate n (unit '0')

def decimal (n : ℕ) : Text := (Nat.digits 10 n).reverse.map fun d => UInt16.ofNat (48+d)

/-- The sign and the digits after an `e`. -/
def exponentText (e : ℤ) : Text := (if e < 0 then unit '-' else unit '+')::decimal e.natAbs

/-- A number of a moderate size, with `n` digits before the point. -/
def plain (ds : Text) (n : ℤ) : Text :=
  if ds.length≤n then ds++zeros (n-ds.length).toNat
  else if 0 < n then ds.take n.toNat++unit '.'::ds.drop n.toNat
  else unit '0'::unit '.'::(zeros (-n).toNat++ds)

/-- One digit before the point. -/
def mantissa : Text → Text
  | [] => []
  | [d] => [d]
  | d::ds => d::unit '.'::ds

/-- `Number.prototype.toString` of what is above zero. -/
def magnitude (ds : Text) (n : ℤ) : Text :=
  if -5≤n ∧ n≤21 then plain ds n else mantissa ds++unit 'e'::exponentText (n-1)

def Significand.text (significand : Significand) : Text := significand.digits.map digitUnit

/-- How JSON has a number; what is not finite is written as null. -/
def JsNumber.toJson : JsNumber → Text
  | .zero => [unit '0']
  | .finite negative significand point =>
    (if negative then [unit '-'] else [])++magnitude significand.text point
  | .infinite _ => units "null"

section Reading

/-- A text of digits that neither begins nor ends with a zero. -/
structure Digits (ds : Text) : Prop where
  nonempty : ds≠[]
  first : ds.head?≠some (unit '0')
  last : ds.getLast?≠some (unit '0')
  point : unit '.'∉ds
  exponent : unit 'e'∉ds
  sign : unit '-'∉ds

def strip (t : Text) : Text :=
  ((t.dropWhile (·=unit '0')).reverse.dropWhile (·=unit '0')).reverse

theorem dropWhile_zeros {ds : Text} (h : ds.head?≠some (unit '0')) (n : ℕ) :
    (zeros n++ds).dropWhile (·=unit '0')=ds := by
  induction n with
  | zero =>
    cases ds with
    | nil => rfl
    | cons d ds =>
      have hd : d≠unit '0' := by simpa using h
      simp [zeros,hd]
  | succ n ih => simpa [zeros,List.replicate_succ] using ih

theorem strip_zeros {ds : Text} (h : Digits ds) (a b : ℕ) : strip (zeros a++(ds++zeros b))=ds := by
  have hfirst : (ds++zeros b).head?≠some (unit '0') := by
    rw [List.head?_append_of_ne_nil _ h.nonempty]
    exact h.first
  have hlast : ds.reverse.head?≠some (unit '0') := by
    rw [List.head?_reverse]
    exact h.last
  have hreverse : (ds++zeros b).reverse=zeros b++ds.reverse := by
    rw [List.reverse_append,zeros,List.reverse_replicate]
  unfold strip
  rw [dropWhile_zeros hfirst,hreverse,dropWhile_zeros hlast,List.reverse_reverse]

theorem filter_point {t : Text} (h : unit '.'∉t) : t.filter (·≠unit '.')=t := by
  refine List.filter_eq_self.mpr fun u hu => ?_
  have hne : u≠unit '.' := fun he => h (he ▸ hu)
  simpa using hne

theorem filter_point_cons (t : Text) :
    (unit '.'::t).filter (·≠unit '.')=t.filter (·≠unit '.') := by
  simp

theorem filter_zero_cons (t : Text) :
    (unit '0'::t).filter (·≠unit '.')=unit '0'::t.filter (·≠unit '.') := rfl

theorem mem_zeros {u : UInt16} {n : ℕ} (h : u∈zeros n) : u=unit '0' := (List.mem_replicate.mp h).2

theorem point_notMem_zeros (n : ℕ) : unit '.'∉zeros n := fun h => absurd (mem_zeros h) (by decide)

theorem exponent_notMem_zeros (n : ℕ) : unit 'e'∉zeros n := fun h => absurd (mem_zeros h) (by decide)

variable {ds ds' : Text} {n n' : ℤ}

theorem exponent_notMem_plain (h : Digits ds) : unit 'e'∉plain ds n := by
  have hzero : unit 'e'≠unit '0' := by decide
  have hpoint : unit 'e'≠unit '.' := by decide
  have htake : ∀ k, unit 'e'∉ds.take k := fun k hk => h.exponent (List.mem_of_mem_take hk)
  have hdrop : ∀ k, unit 'e'∉ds.drop k := fun k hk => h.exponent (List.mem_of_mem_drop hk)
  unfold plain
  split_ifs <;> simp [hzero,hpoint,h.exponent,exponent_notMem_zeros,htake,hdrop]

theorem strip_plain (h : Digits ds) : strip ((plain ds n).filter (·≠unit '.'))=ds := by
  unfold plain
  split_ifs
  · rw [List.filter_append,filter_point h.point,filter_point (point_notMem_zeros _)]
    exact strip_zeros h 0 _
  · have htake : unit '.'∉ds.take n.toNat := fun hk => h.point (List.mem_of_mem_take hk)
    have hdrop : unit '.'∉ds.drop n.toNat := fun hk => h.point (List.mem_of_mem_drop hk)
    have hall := strip_zeros h 0 0
    rw [List.filter_append,filter_point_cons,filter_point htake,filter_point hdrop,
      List.take_append_drop]
    simpa [zeros] using hall
  · have hall := strip_zeros h ((-n).toNat+1) 0
    rw [filter_zero_cons,filter_point_cons,List.filter_append,
      filter_point (point_notMem_zeros _),filter_point h.point]
    simpa [zeros,List.replicate_succ] using hall

theorem point_mem_plain (h : Digits ds) : unit '.'∈plain ds n ↔ n < ds.length := by
  unfold plain
  by_cases hwhole : ds.length≤n
  · simp [hwhole,h.point,point_notMem_zeros]
  · rw [if_neg hwhole]
    split_ifs <;> simp <;> omega

theorem plain_point (h : Digits ds) (hplain : plain ds n=plain ds n') : n=n' := by
  have hmem := point_mem_plain (n := n) h
  rw [hplain,point_mem_plain h] at hmem
  by_cases hwhole : ds.length≤n
  · have hwhole' : ds.length≤n' := by omega
    have hlength := congrArg List.length hplain
    simp only [plain,hwhole,hwhole',if_true,List.length_append,zeros,List.length_replicate] at hlength
    omega
  · have hwhole' : ¬ds.length≤n' := by omega
    have htake : ∀ k, unit '.'∉ds.take k := fun k hk => h.point (List.mem_of_mem_take hk)
    have hfirst : ∀ k, 0 < k → ds.take k≠[unit '0'] := by
      intro k hk htake
      have hhead : (ds.take k).head?=ds.head? := by
        rw [List.head?_take,if_neg (by omega)]
      rw [htake] at hhead
      exact h.first hhead.symm
    simp only [plain,hwhole,hwhole',if_false] at hplain
    by_cases hpos : 0 < n
    · by_cases hpos' : 0 < n'
      · simp only [hpos,hpos',if_true] at hplain
        have hlength := congrArg List.length (split_first (htake _) (htake _) hplain).1
        simp only [List.length_take] at hlength
        omega
      · simp only [hpos,hpos',if_true,if_false] at hplain
        have hzero : unit '.'∉[unit '0'] := by decide
        have hsplit : ds.take n.toNat=[unit '0'] := (split_first (htake _) hzero hplain).1
        exact absurd hsplit (hfirst _ (by omega))
    · by_cases hpos' : 0 < n'
      · simp only [hpos,hpos',if_true,if_false] at hplain
        have hzero : unit '.'∉[unit '0'] := by decide
        have hsplit : [unit '0']=ds.take n'.toNat := (split_first hzero (htake _) hplain).1
        exact absurd hsplit.symm (hfirst _ (by omega))
      · simp only [hpos,hpos',if_false] at hplain
        have hlength := congrArg List.length hplain
        simp only [List.length_cons,List.length_append,zeros,List.length_replicate] at hlength
        omega

theorem plain_inj (h : Digits ds) (h' : Digits ds') (hplain : plain ds n=plain ds' n') :
    ds=ds' ∧ n=n' := by
  have hdigits : ds=ds' := by rw [← strip_plain (n := n) h,hplain,strip_plain h']
  subst hdigits
  exact ⟨rfl,plain_point h hplain⟩

theorem exponent_notMem_mantissa (h : Digits ds) : unit 'e'∉mantissa ds := by
  have hpoint : unit 'e'≠unit '.' := by decide
  cases ds with
  | nil => exact absurd rfl h.nonempty
  | cons d ds =>
    have hnone := h.exponent
    cases ds with
    | nil => exact hnone
    | cons d' ds =>
      simp only [mantissa,List.mem_cons,hpoint,false_or] at hnone ⊢
      exact hnone

theorem filter_mantissa (h : Digits ds) : (mantissa ds).filter (·≠unit '.')=ds := by
  cases ds with
  | nil => exact absurd rfl h.nonempty
  | cons d ds =>
    cases ds with
    | nil => exact filter_point h.point
    | cons d' ds =>
      have hself := filter_point h.point
      rw [List.filter_cons] at hself
      have hmantissa : mantissa (d::d'::ds)=d::unit '.'::d'::ds := rfl
      rw [hmantissa,List.filter_cons,filter_point_cons]
      exact hself

theorem decimal_inj {a b : ℕ} (h : decimal a=decimal b) : a=b := by
  have hdigit : ∀ d < 10, ∀ d' < 10, UInt16.ofNat (48+d)=UInt16.ofNat (48+d') → d=d' := by decide
  have hvalue : ∀ a, ∀ d∈(Nat.digits 10 a).reverse, d < 10 := fun a d hd =>
    Nat.digits_lt_base (by omega) (List.mem_reverse.mp hd)
  have hinj : ∀ xs ys : List ℕ, (∀ d∈xs, d < 10) → (∀ d∈ys, d < 10) →
      (xs.map fun d => UInt16.ofNat (48+d))=ys.map (fun d => UInt16.ofNat (48+d)) → xs=ys := by
    intro xs
    induction xs with
    | nil =>
      intro ys _ _ hmap
      exact (List.map_eq_nil_iff.mp hmap.symm).symm
    | cons x xs ih =>
      intro ys hxs hys hmap
      cases ys with
      | nil => cases hmap
      | cons y ys =>
        rw [List.map_cons,List.map_cons] at hmap
        have hhead := hdigit x (hxs x List.mem_cons_self) y (hys y List.mem_cons_self)
          (List.cons.inj hmap).1
        have htail := ih ys (fun d hd => hxs d (List.mem_cons_of_mem x hd))
          (fun d hd => hys d (List.mem_cons_of_mem y hd)) (List.cons.inj hmap).2
        rw [hhead,htail]
  exact Nat.digits.injective 10 (List.reverse_injective (hinj _ _ (hvalue a) (hvalue b) h))

theorem exponentText_inj {e e' : ℤ} (h : exponentText e=exponentText e') : e=e' := by
  have hsigns : unit '-'≠unit '+' := by decide
  have hparts := List.cons.inj h
  have habs := decimal_inj hparts.2
  have hsign := hparts.1
  by_cases hneg : e < 0
  · by_cases hneg' : e' < 0
    · omega
    · rw [if_pos hneg,if_neg hneg'] at hsign
      exact absurd hsign hsigns
  · by_cases hneg' : e' < 0
    · rw [if_neg hneg,if_pos hneg'] at hsign
      exact absurd hsign.symm hsigns
    · omega

theorem magnitude_inj (h : Digits ds) (h' : Digits ds') (heq : magnitude ds n=magnitude ds' n') :
    ds=ds' ∧ n=n' := by
  unfold magnitude at heq
  by_cases hrange : -5≤n ∧ n≤21
  · by_cases hrange' : -5≤n' ∧ n'≤21
    · rw [if_pos hrange,if_pos hrange'] at heq
      exact plain_inj h h' heq
    · rw [if_pos hrange,if_neg hrange'] at heq
      have hnone : unit 'e'∉plain ds n := exponent_notMem_plain h
      rw [heq] at hnone
      simp at hnone
  · by_cases hrange' : -5≤n' ∧ n'≤21
    · rw [if_neg hrange,if_pos hrange'] at heq
      have hnone : unit 'e'∉plain ds' n' := exponent_notMem_plain h'
      rw [← heq] at hnone
      simp at hnone
    · rw [if_neg hrange,if_neg hrange'] at heq
      have hsplit := split_first (exponent_notMem_mantissa h) (exponent_notMem_mantissa h') heq
      have hexponent := exponentText_inj hsplit.2
      have hdigits : ds=ds' := by rw [← filter_mantissa h,hsplit.1,filter_mantissa h']
      exact ⟨hdigits,by omega⟩

theorem magnitude_ne_zero (h : Digits ds) : magnitude ds n≠[unit '0'] := by
  intro heq
  unfold magnitude at heq
  split_ifs at heq
  · have hstrip : strip ((plain ds n).filter (·≠unit '.'))=ds := strip_plain h
    rw [heq] at hstrip
    exact h.nonempty (by rw [← hstrip]; rfl)
  · have hmem : unit 'e'∈[unit '0'] := by
      rw [← heq]
      simp
    revert hmem
    decide

theorem magnitude_head (h : Digits ds) : (magnitude ds n).head?≠some (unit '-') := by
  have hhead : ds.head?≠some (unit '-') := fun hd => h.sign (List.mem_of_mem_head? hd)
  have hzero : some (unit '0')≠some (unit '-') := by decide
  cases ds with
  | nil => exact absurd rfl h.nonempty
  | cons d ds =>
    unfold magnitude plain
    split_ifs with _ _ hpos
    · exact hhead
    · cases hn : n.toNat with
      | zero => omega
      | succ k => exact hhead
    · exact hzero
    · cases ds <;> exact hhead

end Reading

theorem digitUnit_facts : ∀ d : Fin 10, digitUnit d≠unit '.' ∧ digitUnit d≠unit 'e' ∧
    digitUnit d≠unit '-' ∧ (digitUnit d=unit '0' → d=0) := by decide

theorem digitUnit_inj : ∀ d d' : Fin 10, digitUnit d=digitUnit d' → d=d' := by decide

theorem Significand.text_digits (x : Significand) : Digits x.text where
  nonempty := by simpa [Significand.text] using x.nonempty
  first := by
    intro h
    rw [Significand.text,List.head?_map] at h
    obtain ⟨d,hd,hzero⟩ := Option.map_eq_some_iff.mp h
    exact x.first (by rw [hd,(digitUnit_facts d).2.2.2 hzero])
  last := by
    intro h
    rw [Significand.text,List.getLast?_map] at h
    obtain ⟨d,hd,hzero⟩ := Option.map_eq_some_iff.mp h
    exact x.last (by rw [hd,(digitUnit_facts d).2.2.2 hzero])
  point := by
    intro h
    obtain ⟨d,-,hd⟩ := List.mem_map.mp h
    exact (digitUnit_facts d).1 hd
  exponent := by
    intro h
    obtain ⟨d,-,hd⟩ := List.mem_map.mp h
    exact (digitUnit_facts d).2.1 hd
  sign := by
    intro h
    obtain ⟨d,-,hd⟩ := List.mem_map.mp h
    exact (digitUnit_facts d).2.2.1 hd

theorem Significand.text_inj {x y : Significand} (h : x.text=y.text) : x=y := by
  have hdigits := List.map_injective_iff.mpr (fun d d' hd => digitUnit_inj d d' hd) h
  cases x
  cases y
  simpa using hdigits

def JsNumber.IsFinite : JsNumber → Prop
  | .zero => True
  | .finite _ _ _ => True
  | .infinite _ => False

theorem JsNumber.toJson_inj {x y : JsNumber} (hx : x.IsFinite) (hy : y.IsFinite)
    (h : x.toJson=y.toJson) : x=y := by
  have hzero : ∀ negative (z : Significand) n, JsNumber.toJson (.finite negative z n)≠[unit '0'] := by
    intro negative z n hz
    cases negative with
    | false => exact magnitude_ne_zero z.text_digits hz
    | true =>
      have hhead := (List.cons.inj hz).1
      revert hhead
      decide
  have hsign : ∀ (z w : Significand) n m,
      JsNumber.toJson (.finite true z n)≠JsNumber.toJson (.finite false w m) := by
    intro z w n m hz
    have hhead := congrArg List.head? hz
    exact magnitude_head w.text_digits hhead.symm
  cases x with
  | infinite _ => cases hx
  | zero =>
    cases y with
    | infinite _ => cases hy
    | zero => rfl
    | finite negative z n => exact absurd h.symm (hzero negative z n)
  | finite negative z n =>
    cases y with
    | infinite _ => cases hy
    | zero => exact absurd h (hzero negative z n)
    | finite negative' w m =>
      have hmagnitude : magnitude z.text n=magnitude w.text m → z=w ∧ n=m := by
        intro heq
        have hparts := magnitude_inj z.text_digits w.text_digits heq
        exact ⟨Significand.text_inj hparts.1,hparts.2⟩
      cases negative with
      | false =>
        cases negative' with
        | false =>
          obtain ⟨rfl,rfl⟩ := hmagnitude h
          rfl
        | true => exact absurd h.symm (hsign w z m n)
      | true =>
        cases negative' with
        | false => exact absurd h (hsign z w n m)
        | true =>
          obtain ⟨rfl,rfl⟩ := hmagnitude (List.cons.inj h).2
          rfl

/-- What a number is written with. -/
def isNumberUnit (u : UInt16) : Bool :=
  u∈(List.range 10).map (fun d => UInt16.ofNat (48+d)) || u∈[unit '.',unit 'e',unit '-',unit '+']

theorem isNumberUnit_digit : ∀ d < 10, isNumberUnit (UInt16.ofNat (48+d))=true := by decide

theorem isNumberUnit_zeros {n : ℕ} : ∀ u∈zeros n, isNumberUnit u=true := by
  intro u hu
  rw [mem_zeros hu]
  decide

theorem isNumberUnit_exponentText (e : ℤ) : ∀ u∈exponentText e, isNumberUnit u=true := by
  intro u hu
  cases List.mem_cons.mp hu with
  | inl hsign =>
    rw [hsign]
    split <;> decide
  | inr hdigit =>
    obtain ⟨d,hd,rfl⟩ := List.mem_map.mp hdigit
    exact isNumberUnit_digit d (Nat.digits_lt_base (by omega) (List.mem_reverse.mp hd))

theorem isNumberUnit_magnitude {ds : Text} (h : ∀ u∈ds, isNumberUnit u=true) (n : ℤ) :
    ∀ u∈magnitude ds n, isNumberUnit u=true := by
  have hpoint : isNumberUnit (unit '.')=true := by decide
  have hzero : isNumberUnit (unit '0')=true := by decide
  have hexponent : isNumberUnit (unit 'e')=true := by decide
  have hmantissa : ∀ u∈mantissa ds, isNumberUnit u=true := by
    cases ds with
    | nil => exact h
    | cons d ds =>
      cases ds with
      | nil => exact h
      | cons d' ds =>
        simp only [mantissa,List.forall_mem_cons,hpoint,true_and] at h ⊢
        exact h
  have htake : ∀ k, ∀ u∈ds.take k, isNumberUnit u=true := fun k u hu =>
    h u (List.mem_of_mem_take hu)
  have hdrop : ∀ k, ∀ u∈ds.drop k, isNumberUnit u=true := fun k u hu =>
    h u (List.mem_of_mem_drop hu)
  unfold magnitude plain
  split_ifs
  · exact List.forall_mem_append.mpr ⟨h,isNumberUnit_zeros⟩
  · exact List.forall_mem_append.mpr ⟨htake _,List.forall_mem_cons.mpr ⟨hpoint,hdrop _⟩⟩
  · exact List.forall_mem_cons.mpr ⟨hzero,List.forall_mem_cons.mpr ⟨hpoint,
      List.forall_mem_append.mpr ⟨isNumberUnit_zeros,h⟩⟩⟩
  · exact List.forall_mem_append.mpr ⟨hmantissa,List.forall_mem_cons.mpr ⟨hexponent,
      isNumberUnit_exponentText _⟩⟩

theorem JsNumber.toJson_units {x : JsNumber} (hx : x.IsFinite) :
    ∀ u∈x.toJson, isNumberUnit u=true := by
  cases x with
  | infinite _ => cases hx
  | zero =>
    intro u hu
    rw [List.mem_singleton.mp hu]
    decide
  | finite negative z n =>
    have hdigits : ∀ u∈z.text, isNumberUnit u=true := by
      intro u hu
      obtain ⟨d,-,rfl⟩ := List.mem_map.mp hu
      exact isNumberUnit_digit d.val d.isLt
    have hmagnitude := isNumberUnit_magnitude hdigits n
    cases negative with
    | false => exact hmagnitude
    | true => exact List.forall_mem_cons.mpr ⟨by decide,hmagnitude⟩

theorem JsNumber.toJson_ne_nil {x : JsNumber} (hx : x.IsFinite) : x.toJson≠[] := by
  cases x with
  | infinite _ => cases hx
  | zero => exact List.cons_ne_nil _ _
  | finite negative z n =>
    cases negative with
    | true => exact List.cons_ne_nil _ _
    | false =>
      intro hnil
      have hne := z.text_digits.nonempty
      change magnitude z.text n=[] at hnil
      unfold magnitude plain at hnil
      split_ifs at hnil
      · exact hne (List.append_eq_nil_iff.mp hnil).1
      · simp at hnil
      · simp at hnil

end Numerals
