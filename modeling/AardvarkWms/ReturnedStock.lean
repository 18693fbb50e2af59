import AardvarkWms.Returns
import Mathlib.Tactic.Ring

/-! What a return posts: each inspection that ends puts its accepted quantity on stock once, with
one movement, and no line is inspected beyond what was received. -/
namespace AardvarkWms.Returns

open OrderUpdates (Uuid someUuid isHex)
open Transactions.Txn (bind_eq_ok)

def InspectReturnLineDto.createsStock (dto : InspectReturnLineDto) : Bool :=
  (decideReturnDisposition dto.disposition).createsStock

/-- What a call is to put on stock. -/
def Request.accepted (request : Request) : ℕ :=
  match request.dto with
  | .receive _ => 0
  | .inspect dto => dto.accepted

/-- The movements for a quantity: the database takes none of a quantity of zero. -/
def receipt (quantity : ℕ) : List ℕ := if quantity=0 then [] else [quantity]

/-- The stock grew by what was accepted, and that is what the call's movements say. -/
def Event.Exact : Event → Prop
  | .done request posted moved => posted=request.accepted ∧ moved=receipt request.accepted
  | .failed _ _ => True

def ReturnOrderLine.Bounded (l : ReturnOrderLine) : Prop :=
  l.inspectedQuantity≤l.receivedQuantity ∧ l.receivedQuantity≤l.expectedQuantity

instance (l : ReturnOrderLine) : Decidable l.Bounded :=
  inferInstanceAs (Decidable (_ ∧ _))

/-- What a request asks for can be posted: nothing is accepted of a disposition without stock. -/
def Request.Postable (request : Request) : Prop :=
  match request.dto with
  | .receive _ => True
  | .inspect dto => 0 < dto.accepted → dto.createsStock=true

instance : ∀ request : Request, Decidable request.Postable
  | ⟨_,_,_,.receive _⟩ => inferInstanceAs (Decidable True)
  | ⟨_,_,_,.inspect dto⟩ =>
    inferInstanceAs (Decidable (0 < dto.accepted → dto.createsStock=true))

/-- The statement finds what it counts on: one quant at most, a new key, a line of which no more
was received in the meantime than is now written. -/
def Phase.Undisturbed (db : ReturnsDb) : Phase → Prop
  | .quants _ p => (db.quants.rows.filter p.finds).length≤1
  | .movement _ p _ => ∀ m∈db.movements.rows, m.returnKey≠some p.key
  | .received known next => ∀ l∈db.lines.rows, l.id=known.id → l.receivedQuantity≤next
  | _ => True

instance (db : ReturnsDb) : ∀ phase : Phase, Decidable (phase.Undisturbed db)
  | .quants _ p => inferInstanceAs (Decidable ((db.quants.rows.filter p.finds).length≤1))
  | .movement _ p _ => inferInstanceAs (Decidable (∀ m∈db.movements.rows, m.returnKey≠some p.key))
  | .received known next =>
    inferInstanceAs (Decidable (∀ l∈db.lines.rows, l.id=known.id → l.receivedQuantity≤next))
  | .warehouse => inferInstanceAs (Decidable True)
  | .order _ => inferInstanceAs (Decidable True)
  | .line _ => inferInstanceAs (Decidable True)
  | .location _ => inferInstanceAs (Decidable True)
  | .lot _ _ => inferInstanceAs (Decidable True)
  | .quant _ _ => inferInstanceAs (Decidable True)
  | .inspection _ _ => inferInstanceAs (Decidable True)
  | .inspected _ => inferInstanceAs (Decidable True)
  | .statuses _ => inferInstanceAs (Decidable True)
  | .orderStatus _ _ => inferInstanceAs (Decidable True)

def System.Meets (s : System) : Action → Prop
  | .start _ request => request.Postable
  | .advance i _ => ∀ c∈s.call i, c.phase.Undisturbed s.db

instance (s : System) : ∀ a : Action, Decidable (s.Meets a)
  | .start _ request => inferInstanceAs (Decidable request.Postable)
  | .advance i _ => inferInstanceAs (Decidable (∀ c∈s.call i, c.phase.Undisturbed s.db))

def System.AllMeet (env : Env) : System → List Action → Prop
  | _, [] => True
  | s, a::as => s.Meets a ∧ AllMeet env (s.act env a).1 as

instance decidableAllMeet (env : Env) : ∀ (s : System) (as : List Action),
    Decidable (s.AllMeet env as)
  | _, [] => inferInstanceAs (Decidable True)
  | s, a::as =>
    let _ := decidableAllMeet env (s.act env a).1 as
    inferInstanceAs (Decidable (s.Meets a ∧ (s.act env a).1.AllMeet env as))

/-- Of an inspection under way: the line can take it. -/
def Inspection.Fits (x : Inspection) (db : ReturnsDb) : Prop :=
  x.line.inspectedQuantity+x.inspectedQuantity≤x.line.receivedQuantity ∧
    ∀ l∈db.lines.rows, l.id=x.line.id → x.line.receivedQuantity≤l.receivedQuantity

/-- What a call that stands at a statement knows of the line. -/
def Phase.Reads (db : ReturnsDb) : Phase → Prop
  | .received known next => ∀ l∈db.lines.rows, l.id=known.id → next≤l.expectedQuantity
  | .location x => x.Fits db
  | .lot x _ => x.Fits db
  | .quants x _ => x.Fits db
  | .quant x _ => x.Fits db
  | .movement x _ _ => x.Fits db
  | .inspection x _ => x.Fits db
  | .inspected x => x.Fits db
  | _ => True

/-- What a call that stands at a statement has posted, of the quantity it is to post. -/
def Phase.Due (accepted : ℕ) (posted : ℤ) (moved : List ℕ) : Phase → Prop
  | .warehouse => posted=0 ∧ moved=[]
  | .order _ => posted=0 ∧ moved=[]
  | .line _ => posted=0 ∧ moved=[]
  | .received _ _ => posted=0 ∧ moved=[] ∧ accepted=0
  | .location x => posted=0 ∧ moved=[] ∧ x.acceptedQuantity=accepted ∧ 0 < accepted
  | .lot x _ => posted=0 ∧ moved=[] ∧ x.acceptedQuantity=accepted ∧ 0 < accepted
  | .quants _ p => posted=0 ∧ moved=[] ∧ p.quantity=accepted ∧ 0 < accepted
  | .quant _ p => posted=0 ∧ moved=[] ∧ p.quantity=accepted ∧ 0 < accepted
  | .movement _ p _ => posted=accepted ∧ moved=[] ∧ p.quantity=accepted ∧ 0 < accepted
  | _ => posted=accepted ∧ moved=receipt accepted

structure Call.Sound (db : ReturnsDb) (c : Call) : Prop where
  postable : c.request.Postable
  reads : c.phase.Reads db
  due : c.phase.Due c.request.accepted c.posted c.moved

/-- The lines of the second state are those of the first, with no less received. -/
def Grows (db db' : ReturnsDb) : Prop :=
  ∀ l'∈db'.lines.rows, ∃ l∈db.lines.rows, l.id=l'.id ∧ l.expectedQuantity=l'.expectedQuantity ∧
    l.receivedQuantity≤l'.receivedQuantity

theorem Grows.of_lines {db db' : ReturnsDb} (h : db'.lines=db.lines) : Grows db db' := by
  intro l hl
  exact ⟨l,h ▸ hl,rfl,rfl,le_rfl⟩

theorem Inspection.Fits.grows {x : Inspection} {db db' : ReturnsDb} (h : x.Fits db)
    (hg : Grows db db') : x.Fits db' := by
  refine ⟨h.1,fun l' hl' hid => ?_⟩
  obtain ⟨l,hl,hsame,_,hreceived⟩ := hg l' hl'
  have hread := h.2 l hl (hsame.trans hid)
  omega

theorem Phase.Reads.grows {db db' : ReturnsDb} (hg : Grows db db') {phase : Phase}
    (h : phase.Reads db) : phase.Reads db' := by
  cases phase with
  | received line next =>
    intro l' hl' hid
    obtain ⟨l,hl,hsame,hexpected,_⟩ := hg l' hl'
    have hread := h l hl (hsame.trans hid)
    omega
  | location x => exact Inspection.Fits.grows h hg
  | lot x location => exact Inspection.Fits.grows h hg
  | quants x p => exact Inspection.Fits.grows h hg
  | quant x p => exact Inspection.Fits.grows h hg
  | movement x p quantId => exact Inspection.Fits.grows h hg
  | inspection x stockQuantId => exact Inspection.Fits.grows h hg
  | inspected x => exact Inspection.Fits.grows h hg
  | warehouse => trivial
  | order warehouseId => trivial
  | line order => trivial
  | statuses returnOrderId => trivial
  | orderStatus returnOrderId status => trivial

theorem receipts_same {db db' : ReturnsDb} (h : db'.movements=db.movements) :
    receipts db db'=[] := by
  simp [receipts,h]

theorem stock_receiveQuants (db : ReturnsDb) (p : Posting) :
    (db.receiveQuants p).total (fun q => (q.quantity : ℤ))=
      db.stock+(db.quants.rows.filter p.finds).length*p.quantity := by
  unfold ReturnsDb.receiveQuants
  rw [Table.total_modifyWhere]
  have hsum : ∀ l : List StockQuant,
      (l.map fun q => (((q.quantity+p.quantity : ℕ) : ℤ)-q.quantity)).sum=l.length*(p.quantity : ℤ) := by
    intro l
    induction l with
    | nil => simp
    | cons q l ih =>
      rw [List.map_cons,List.sum_cons,ih,List.length_cons]
      push_cast
      ring
  exact congrArg (db.stock+·) (hsum _)

/-- The facts of one statement, for the call that makes it and for the others. -/
structure Stepped (db : ReturnsDb) (c : Call) (db' : ReturnsDb) (phase : Option Phase) : Prop where
  bounded : ∀ l∈db'.lines.rows, l.Bounded
  grows : Grows db db'
  next : ∀ p∈phase, (c.moves db db' p).Sound db'
  ended : phase=none → Event.Exact
    (.done c.request (c.posted+(db'.stock-db.stock)) (c.moved++receipts db db'))

theorem Stepped.writes {db db' : ReturnsDb} {c : Call} {p : Phase} (n : ℤ) (ms : List ℕ)
    (hbounded : ∀ l∈db'.lines.rows, l.Bounded) (hgrows : Grows db db')
    (hstock : db'.stock=db.stock+n) (hmoved : receipts db db'=ms) (hpostable : c.request.Postable)
    (hreads : p.Reads db') (hdue : p.Due c.request.accepted (c.posted+n) (c.moved++ms)) :
    Stepped db c db' (some p) where
  bounded := hbounded
  grows := hgrows
  next := by
    intro p' hp
    cases hp
    refine ⟨hpostable,hreads,?_⟩
    have hposted : c.posted+(db'.stock-db.stock)=c.posted+n := by omega
    show p.Due c.request.accepted (c.posted+(db'.stock-db.stock)) (c.moved++receipts db db')
    rw [hposted,hmoved]
    exact hdue
  ended := by
    intro h
    cases h

theorem Stepped.lines {db db' : ReturnsDb} {c : Call} {p : Phase}
    (hbounded : ∀ l∈db'.lines.rows, l.Bounded) (hgrows : Grows db db')
    (hquants : db'.quants=db.quants) (hmovements : db'.movements=db.movements)
    (hpostable : c.request.Postable) (hreads : p.Reads db')
    (hdue : p.Due c.request.accepted c.posted c.moved) : Stepped db c db' (some p) := by
  have hstock : db'.stock=db.stock+0 := by
    unfold ReturnsDb.stock
    rw [hquants,add_zero]
  refine .writes 0 [] hbounded hgrows hstock (receipts_same hmovements) hpostable hreads ?_
  rw [add_zero,List.append_nil]
  exact hdue

theorem Stepped.quiet {db db' : ReturnsDb} {c : Call} {p : Phase}
    (hbounded : ∀ l∈db.lines.rows, l.Bounded) (hlines : db'.lines=db.lines)
    (hquants : db'.quants=db.quants) (hmovements : db'.movements=db.movements)
    (hpostable : c.request.Postable) (hreads : p.Reads db)
    (hdue : p.Due c.request.accepted c.posted c.moved) : Stepped db c db' (some p) := by
  have hgrows := Grows.of_lines hlines
  refine .lines ?_ hgrows hquants hmovements hpostable (hreads.grows hgrows) hdue
  rw [hlines]
  exact hbounded

theorem modified_lines {db : ReturnsDb} {id : Uuid} {f : ReturnOrderLine → ReturnOrderLine}
    (hid : ∀ l, (f l).id=l.id) (hb : ∀ l∈db.lines.rows, l.Bounded)
    (h : ∀ l∈db.lines.rows, l.id=id → (f l).expectedQuantity=l.expectedQuantity ∧
      l.receivedQuantity≤(f l).receivedQuantity ∧ (f l).Bounded) :
    (∀ l∈(db.lines.modify id f hid).rows, l.Bounded) ∧
      Grows db {db with lines := db.lines.modify id f hid} := by
  constructor
  · intro l' hl'
    obtain ⟨l,hl,rfl⟩ := List.mem_map.mp hl'
    by_cases hsame : l.id=id
    · rw [if_pos hsame]
      exact (h l hl hsame).2.2
    · rw [if_neg hsame]
      exact hb l hl
  · intro l' hl'
    obtain ⟨l,hl,rfl⟩ := List.mem_map.mp hl'
    refine ⟨l,hl,?_⟩
    by_cases hsame : l.id=id
    · rw [if_pos hsame]
      exact ⟨(hid l).symm,(h l hl hsame).1.symm,(h l hl hsame).2.1⟩
    · rw [if_neg hsame]
      exact ⟨rfl,rfl,le_rfl⟩

variable {env : Env} {generated : Option Uuid} {db db' : ReturnsDb} {c : Call} {next : Option Phase}

theorem checkReceive_ok {l : ReturnOrderLine} {dto : ReceiveReturnLineDto} {n : ℕ}
    (h : checkReceive l dto=.ok n) : n≤l.expectedQuantity := by
  unfold checkReceive at h
  obtain ⟨quantity,_,h⟩ := bind_eq_ok h
  split at h
  · cases h
  · cases h
    omega

theorem checkInspect_ok {order : ReturnOrder} {l : ReturnOrderLine} {dto : InspectReturnLineDto}
    {x : Inspection} (h : checkInspect order l dto=.ok x) :
    x.line=l ∧ x.acceptedQuantity=dto.accepted ∧ x.decision=decideReturnDisposition dto.disposition ∧
      l.inspectedQuantity+x.inspectedQuantity≤l.receivedQuantity := by
  unfold checkInspect at h
  obtain ⟨quantity,hquantity,h⟩ := bind_eq_ok h
  have hpositive : 0 < quantity := by
    unfold assertReturnQuantity at hquantity
    split at hquantity
    · cases hquantity
    · cases hquantity
      omega
  split at h
  · cases h
  · rename_i hrest
    split at h
    · cases h
    · cases h
      refine ⟨rfl,rfl,rfl,?_⟩
      show l.inspectedQuantity+quantity≤l.receivedQuantity
      omega

theorem stepped_line {order : ReturnOrder} {posted : ℤ} {moved : List ℕ} {request : Request}
    (hb : ∀ l∈db.lines.rows, l.Bounded) (hc : Call.Sound db ⟨request,.line order,posted,moved⟩)
    (h : advance env generated db request (.line order)=.ok (db',next)) :
    Stepped db ⟨request,.line order,posted,moved⟩ db' next := by
  obtain ⟨hposted,hmoved⟩ := hc.due
  obtain ⟨l,hl,h⟩ := bind_eq_ok h
  have hmem : l∈db.lines.rows := by
    unfold Env.resolveReturnLine orNotFound at hl
    cases hfind : db.lines.rows.find? fun l => l.returnOrderId=order.id &&
        (l.id.val=request.lineReference || l.lineNumber=Messaging.trim request.lineReference) with
    | none => rw [hfind] at hl; cases hl
    | some found =>
      rw [hfind] at hl
      cases hl
      exact List.mem_of_find?_eq_some hfind
  have hsame : ∀ l'∈db.lines.rows, l'.id=l.id → l'=l :=
    fun l' hl' hid => Table.inj_of_nodup db.lines.nodup hl' hmem hid
  cases hdto : request.dto with
  | receive dto =>
    simp only [hdto] at h
    obtain ⟨n,hn,h⟩ := bind_eq_ok h
    have hbounds := checkReceive_ok hn
    cases h
    refine .quiet hb rfl rfl rfl hc.postable ?_ ⟨hposted,hmoved,?_⟩
    · intro l' hl' hid
      rw [hsame l' hl' hid]
      exact hbounds
    · simp only [Request.accepted,hdto]
  | inspect dto =>
    simp only [hdto] at h
    obtain ⟨x,hx,h⟩ := bind_eq_ok h
    obtain ⟨hline,haccepted,hdecision,hrest⟩ := checkInspect_ok hx
    cases h
    have hfits : x.Fits db := by
      refine ⟨by rw [hline]; exact hrest,fun l' hl' hid => ?_⟩
      rw [hline] at hid ⊢
      rw [hsame l' hl' hid]
    have hrequest : request.accepted=dto.accepted := by simp only [Request.accepted,hdto]
    unfold afterChecks
    by_cases hstock : x.decision.createsStock=true ∧ 0 < x.acceptedQuantity
    · rw [if_pos hstock]
      exact .quiet hb rfl rfl rfl hc.postable hfits
        ⟨hposted,hmoved,haccepted.trans hrequest.symm,by rw [hrequest,← haccepted]; exact hstock.2⟩
    · rw [if_neg hstock]
      have hzero : request.accepted=0 := by
        rw [hrequest]
        by_contra hne
        have hpostable := hc.postable
        simp only [Request.Postable,hdto] at hpostable
        have hcreates := hpostable (Nat.pos_of_ne_zero hne)
        apply hstock
        rw [hdecision,haccepted]
        exact ⟨hcreates,Nat.pos_of_ne_zero hne⟩
      refine .quiet hb rfl rfl rfl hc.postable hfits ?_
      show posted=(request.accepted : ℤ) ∧ moved=receipt request.accepted
      rw [hzero]
      exact ⟨hposted,hmoved⟩

theorem stepped_received {l : ReturnOrderLine} {n : ℕ} {posted : ℤ} {moved : List ℕ}
    {request : Request} (hb : ∀ l∈db.lines.rows, l.Bounded)
    (hc : Call.Sound db ⟨request,.received l n,posted,moved⟩)
    (hu : (Phase.received l n).Undisturbed db)
    (h : advance env generated db request (.received l n)=.ok (db',next)) :
    Stepped db ⟨request,.received l n,posted,moved⟩ db' next := by
  have hdue : posted=0 ∧ moved=[] ∧ request.accepted=0 := hc.due
  obtain ⟨hposted,hmoved,hzero⟩ := hdue
  have hexpected : ∀ r∈db.lines.rows, r.id=l.id → n≤r.expectedQuantity := hc.reads
  cases h
  have hgrow : ∀ r∈db.lines.rows, r.id=l.id → (receivedLine l n r).expectedQuantity=
      r.expectedQuantity ∧ r.receivedQuantity≤(receivedLine l n r).receivedQuantity ∧
      (receivedLine l n r).Bounded := by
    intro r hr hid
    have hcurrent := hu r hr hid
    have hinspected := (hb r hr).1
    refine ⟨rfl,hcurrent,?_,hexpected r hr hid⟩
    show r.inspectedQuantity≤n
    omega
  obtain ⟨hbounded,hgrows⟩ := modified_lines (f := receivedLine l n) (fun _ => rfl) hb hgrow
  refine .lines hbounded hgrows rfl rfl hc.postable trivial ?_
  show posted=(request.accepted : ℤ) ∧ moved=receipt request.accepted
  rw [hzero]
  exact ⟨hposted,hmoved⟩

theorem stepped_inspected {x : Inspection} {posted : ℤ} {moved : List ℕ} {request : Request}
    (hb : ∀ l∈db.lines.rows, l.Bounded) (hc : Call.Sound db ⟨request,.inspected x,posted,moved⟩)
    (h : advance env generated db request (.inspected x)=.ok (db',next)) :
    Stepped db ⟨request,.inspected x,posted,moved⟩ db' next := by
  obtain ⟨hrest,hreceived⟩ := hc.reads
  have hdue := hc.due
  cases h
  have hgrow : ∀ r∈db.lines.rows, r.id=x.line.id → (inspectedLine x r).expectedQuantity=
      r.expectedQuantity ∧ r.receivedQuantity≤(inspectedLine x r).receivedQuantity ∧
      (inspectedLine x r).Bounded := by
    intro r hr hid
    have hread := hreceived r hr hid
    refine ⟨rfl,le_rfl,?_,(hb r hr).2⟩
    show x.line.inspectedQuantity+x.inspectedQuantity≤r.receivedQuantity
    omega
  obtain ⟨hbounded,hgrows⟩ := modified_lines (f := inspectedLine x) (fun _ => rfl) hb hgrow
  exact .lines hbounded hgrows rfl rfl hc.postable trivial hdue

theorem stepped_quants {x : Inspection} {p : Posting} {posted : ℤ} {moved : List ℕ}
    {request : Request} (hb : ∀ l∈db.lines.rows, l.Bounded)
    (hc : Call.Sound db ⟨request,.quants x p,posted,moved⟩)
    (hu : (Phase.quants x p).Undisturbed db)
    (h : advance env generated db request (.quants x p)=.ok (db',next)) :
    Stepped db ⟨request,.quants x p,posted,moved⟩ db' next := by
  have hdue : posted=0 ∧ moved=[] ∧ p.quantity=request.accepted ∧ 0 < request.accepted := hc.due
  obtain ⟨hposted,hmoved,hquantity,hpositive⟩ := hdue
  have hfits : x.Fits db := hc.reads
  have hcount : (db.quants.rows.filter p.finds).length≤1 := hu
  simp only [advance] at h
  split at h
  · cases h
  have hstock := stock_receiveQuants db p
  have hgrows : Grows db {db with quants := db.receiveQuants p} := .of_lines rfl
  cases hfind : db.quants.rows.find? p.finds with
  | none =>
    rw [hfind] at h
    cases h
    have hzero : db.quants.rows.filter p.finds=[] := by
      rw [List.filter_eq_nil_iff]
      exact List.find?_eq_none.mp hfind
    rw [hzero,List.length_nil,Nat.cast_zero,zero_mul] at hstock
    refine .writes 0 [] hb hgrows hstock (receipts_same rfl)
      hc.postable (hfits.grows hgrows) ?_
    show posted+0=0 ∧ moved++[]=[] ∧ p.quantity=request.accepted ∧ 0 < request.accepted
    rw [add_zero,List.append_nil]
    exact ⟨hposted,hmoved,hquantity,hpositive⟩
  | some q =>
    rw [hfind] at h
    cases h
    have hone : (db.quants.rows.filter p.finds).length=1 := by
      have hmem : q∈db.quants.rows.filter p.finds :=
        List.mem_filter.mpr ⟨List.mem_of_find?_eq_some hfind,List.find?_some hfind⟩
      have hpos := List.length_pos_of_mem hmem
      omega
    rw [hone,Nat.cast_one,one_mul] at hstock
    refine .writes p.quantity [] hb hgrows hstock
      (receipts_same rfl) hc.postable (hfits.grows hgrows) ?_
    show posted+p.quantity=request.accepted ∧ moved++[]=[] ∧ p.quantity=request.accepted ∧
      0 < request.accepted
    rw [List.append_nil,hposted,hquantity,zero_add]
    exact ⟨rfl,hmoved,rfl,hpositive⟩

theorem stepped_quant {x : Inspection} {p : Posting} {posted : ℤ} {moved : List ℕ}
    {request : Request} (hb : ∀ l∈db.lines.rows, l.Bounded)
    (hc : Call.Sound db ⟨request,.quant x p,posted,moved⟩)
    (h : advance env generated db request (.quant x p)=.ok (db',next)) :
    Stepped db ⟨request,.quant x p,posted,moved⟩ db' next := by
  have hdue : posted=0 ∧ moved=[] ∧ p.quantity=request.accepted ∧ 0 < request.accepted := hc.due
  obtain ⟨hposted,hmoved,hquantity,hpositive⟩ := hdue
  have hfits : x.Fits db := hc.reads
  obtain ⟨id,_,h⟩ := bind_eq_ok h
  obtain ⟨quants,hquants,h⟩ := bind_eq_ok h
  cases h
  have hgrows : Grows db {db with quants} := .of_lines rfl
  have hstock : quants.total (fun q => (q.quantity : ℤ))=db.stock+p.quantity := by
    unfold ReturnsDb.insertQuant at hquants
    split at hquants
    · rename_i hnew
      cases hquants
      exact Table.total_insert _ hnew
    · cases hquants
  refine .writes p.quantity [] hb hgrows hstock (receipts_same rfl) hc.postable (hfits.grows hgrows) ?_
  show posted+p.quantity=request.accepted ∧ moved++[]=[] ∧ p.quantity=request.accepted ∧
    0 < request.accepted
  rw [List.append_nil,hposted,hquantity,zero_add]
  exact ⟨rfl,hmoved,rfl,hpositive⟩

theorem stepped_movement {x : Inspection} {p : Posting} {quantId : Uuid} {posted : ℤ}
    {moved : List ℕ} {request : Request} (hb : ∀ l∈db.lines.rows, l.Bounded)
    (hc : Call.Sound db ⟨request,.movement x p quantId,posted,moved⟩)
    (hu : (Phase.movement x p quantId).Undisturbed db)
    (h : advance env generated db request (.movement x p quantId)=.ok (db',next)) :
    Stepped db ⟨request,.movement x p quantId,posted,moved⟩ db' next := by
  have hdue : posted=request.accepted ∧ moved=[] ∧ p.quantity=request.accepted ∧
    0 < request.accepted := hc.due
  obtain ⟨hposted,hmoved,hquantity,hpositive⟩ := hdue
  have hfits : x.Fits db := hc.reads
  have hkey : (db.movements.rows.any fun m => m.returnKey=some p.key)=false := by
    rw [List.any_eq_false]
    intro m hm
    simpa using hu m hm
  obtain ⟨id,_,h⟩ := bind_eq_ok h
  obtain ⟨movements,hmovements,h⟩ := bind_eq_ok h
  cases h
  have hgrows : Grows db {db with movements} := .of_lines rfl
  have hreceipts : receipts db {db with movements}=[p.quantity] := by
    unfold ReturnsDb.insertMovement at hmovements
    rw [hkey] at hmovements
    simp only [Bool.false_eq_true,if_false] at hmovements
    split at hmovements
    · rename_i hnew
      cases hmovements
      unfold receipts
      simp only
      rw [Table.rows_insert hnew,List.drop_left]
      rfl
    · cases hmovements
  refine .writes 0 [p.quantity] hb hgrows (by rw [add_zero]; rfl) hreceipts hc.postable
    (hfits.grows hgrows) ?_
  show posted+0=request.accepted ∧ moved++[p.quantity]=receipt request.accepted
  have hone : receipt request.accepted=[request.accepted] := by
    unfold receipt
    rw [if_neg (by omega)]
  rw [add_zero,hmoved,hquantity,hone]
  exact ⟨hposted,rfl⟩

theorem stepped (hb : ∀ l∈db.lines.rows, l.Bounded) (hc : c.Sound db)
    (hu : c.phase.Undisturbed db)
    (h : advance env generated db c.request c.phase=.ok (db',next)) : Stepped db c db' next := by
  obtain ⟨request,phase,posted,moved⟩ := c
  have hdue := hc.due
  have hreads := hc.reads
  cases phase with
  | warehouse =>
    obtain ⟨w,_,h⟩ := bind_eq_ok h
    cases h
    exact .quiet hb rfl rfl rfl hc.postable trivial hdue
  | order warehouseId =>
    obtain ⟨o,_,h⟩ := bind_eq_ok h
    cases h
    exact .quiet hb rfl rfl rfl hc.postable trivial hdue
  | line order => exact stepped_line hb hc h
  | received line nextReceived => exact stepped_received hb hc hu h
  | location x =>
    simp only [advance] at h
    split at h
    · obtain ⟨l,_,h⟩ := bind_eq_ok h
      cases h
      exact .quiet hb rfl rfl rfl hc.postable hreads hdue
    · obtain ⟨l,_,h⟩ := bind_eq_ok h
      cases h
      exact .quiet hb rfl rfl rfl hc.postable hreads hdue
  | lot x location =>
    simp only [advance] at h
    split at h
    · cases h
      exact .quiet hb rfl rfl rfl hc.postable hreads hdue
    · obtain ⟨lot,_,h⟩ := bind_eq_ok h
      cases h
      exact .quiet hb rfl rfl rfl hc.postable hreads hdue
  | quants x p => exact stepped_quants hb hc hu h
  | quant x p => exact stepped_quant hb hc h
  | movement x p quantId => exact stepped_movement hb hc hu h
  | inspection x stockQuantId =>
    obtain ⟨row,_,h⟩ := bind_eq_ok h
    cases h
    exact .quiet hb rfl rfl rfl hc.postable hreads hdue
  | inspected x => exact stepped_inspected hb hc h
  | statuses returnOrderId =>
    cases h
    exact .quiet hb rfl rfl rfl hc.postable trivial hdue
  | orderStatus returnOrderId status =>
    cases h
    have hsame : db.stock-db.stock=0 := Int.sub_self _
    have hnone : receipts db db=[] := receipts_same rfl
    refine ⟨hb,.of_lines rfl,?_,fun _ => ?_⟩
    · intro p hp
      cases hp
    · show posted+(db.stock-db.stock)=request.accepted ∧ moved++receipts db db=receipt request.accepted
      rw [hsame,hnone,add_zero,List.append_nil]
      exact hdue

/-- Between two statements: the lines are bounded, and each call knows its line and has posted what
it was to post by then. -/
structure System.Sound (s : System) : Prop where
  bounded : ∀ l∈s.db.lines.rows, l.Bounded
  calls : ∀ i, ∀ c∈s.call i, c.Sound s.db

theorem Call.Sound.grows (h : c.Sound db) (hg : Grows db db') : c.Sound db' :=
  ⟨h.postable,h.reads.grows hg,h.due⟩

theorem System.Sound.put {s : System} (h : s.Sound) (hb : ∀ l∈db'.lines.rows, l.Bounded)
    (hg : Grows s.db db') (i : ℕ) {o : Option Call} (ho : ∀ c∈o, c.Sound db') :
    (System.put ⟨db',s.call⟩ i o).Sound where
  bounded := hb
  calls := by
    intro j c hc
    have hcall : c∈Function.update s.call i o j := hc
    by_cases hj : j=i
    · rw [hj,Function.update_self] at hcall
      exact ho c hcall
    · rw [Function.update_of_ne hj] at hcall
      exact (h.calls j c hcall).grows hg

theorem System.Sound.act {s : System} (h : s.Sound) {a : Action} (hm : s.Meets a) :
    (s.act env a).1.Sound ∧ ∀ e∈(s.act env a).2, e.Exact := by
  have hrefl : Grows s.db s.db := .of_lines rfl
  cases a with
  | start i request =>
    cases hcall : s.call i with
    | some c =>
      simp only [System.act,hcall]
      exact ⟨h,by simp⟩
    | none =>
      simp only [System.act,hcall]
      refine ⟨h.put h.bounded hrefl i ?_,by simp⟩
      intro c hc
      cases hc
      exact ⟨hm,trivial,rfl,rfl⟩
  | advance i generated =>
    cases hcall : s.call i with
    | none =>
      simp only [System.act,hcall]
      exact ⟨h,by simp⟩
    | some c =>
      have hc := h.calls i c hcall
      have hu := hm c hcall
      cases hnext : Returns.advance env generated s.db c.request c.phase with
      | error e =>
        simp only [System.act,hcall,hnext]
        refine ⟨h.put h.bounded hrefl i (by simp),?_⟩
        intro e' he
        rw [List.mem_singleton.mp he]
        trivial
      | ok r =>
        obtain ⟨db',next⟩ := r
        have hstep := stepped h.bounded hc hu hnext
        cases next with
        | some phase =>
          simp only [System.act,hcall,hnext]
          refine ⟨h.put hstep.bounded hstep.grows i ?_,by simp⟩
          intro c' hc'
          cases hc'
          exact hstep.next phase rfl
        | none =>
          simp only [System.act,hcall,hnext]
          refine ⟨h.put hstep.bounded hstep.grows i (by simp),?_⟩
          intro e he
          rw [List.mem_singleton.mp he]
          exact hstep.ended rfl

theorem System.Sound.run {as : List Action} : ∀ {s : System}, s.Sound → s.AllMeet env as →
    (s.run env as).1.Sound ∧ ∀ e∈(s.run env as).2, e.Exact := by
  induction as with
  | nil =>
    intro s h _
    exact ⟨h,by simp [System.run]⟩
  | cons a as ih =>
    intro s h hm
    obtain ⟨hact,hevents⟩ := h.act hm.1
    obtain ⟨hrun,hlater⟩ := ih hact hm.2
    refine ⟨hrun,fun e he => ?_⟩
    cases List.mem_append.mp he with
    | inl hnow => exact hevents e hnow
    | inr hthen => exact hlater e hthen

/-- Where accepted quantities have somewhere to go, one quant at most takes each of them, no
movement has its key yet and no reception takes back what another received, every inspection that
ends has posted its accepted quantity once and no line is inspected beyond what it received. -/
theorem returns_post_exactly (env : Env) (s : System) (hidle : ∀ i, s.call i=none)
    (hbounded : ∀ l∈s.db.lines.rows, l.Bounded) (as : List Action) (hmeet : s.AllMeet env as) :
    (∀ l∈(s.run env as).1.db.lines.rows, l.Bounded) ∧ ∀ e∈(s.run env as).2, e.Exact := by
  have hsound : s.Sound := by
    refine ⟨hbounded,fun i c hc => ?_⟩
    rw [hidle i] at hc
    cases hc
  obtain ⟨hend,hevents⟩ := hsound.run hmeet
  exact ⟨hend.bounded,hevents⟩

def plainEnv : Env := ⟨fun v => v.map Char.toUpper,fun _ _ => true⟩

def mainWarehouse : Warehouse := ⟨someUuid '1' OrderUpdates.isHex_one,"MAIN".toList⟩

def returnsBin : WarehouseLocation :=
  ⟨someUuid '2' OrderUpdates.isHex_two,mainWarehouse.id,"R-1".toList,none,.RECEIVING,some "RETURNS"⟩

def openReturn : ReturnOrder :=
  ⟨someUuid '3' OrderUpdates.isHex_three,mainWarehouse.id,none,"RMA-1".toList,.RECEIVING⟩

/-- Two pieces came back, and none was inspected. -/
def receivedTwo : ReturnOrderLine :=
  ⟨someUuid '4' OrderUpdates.isHex_four,openReturn.id,"1".toList,someUuid '5' OrderUpdates.isHex_five,3,2,0,none,
    .PARTIALLY_RECEIVED⟩

def someReturns : System :=
  ⟨⟨[mainWarehouse],[returnsBin],[],[openReturn],⟨[receivedTwo],by simp⟩,.empty,.empty,[]⟩,fun _ => none⟩

def restockRequest (inspectedQuantity : ℕ) : Request :=
  ⟨"main".toList,"rma-1".toList,"1".toList,.inspect {disposition := .RESTOCK, inspectedQuantity}⟩

def receiveRequest : Request := ⟨"main".toList,"rma-1".toList,"1".toList,.receive ⟨1⟩⟩

/-- A whole call: what remains of it after its end does nothing. -/
def wholeCall (i : ℕ) (request : Request) (c : Char) (hc : isHex c=true) : List Action :=
  .start i request::List.replicate 12 (.advance i (some (someUuid c hc)))

/-- The last piece is received, and two are restocked. -/
def restocking : List Action :=
  wholeCall 0 receiveRequest '6' (by decide)++wholeCall 1 (restockRequest 2) '7' (by decide)

theorem returns_post_exactly_demo :
    (∀ l∈(someReturns.run plainEnv restocking).1.db.lines.rows, l.Bounded) ∧
      ∀ e∈(someReturns.run plainEnv restocking).2, e.Exact :=
  returns_post_exactly plainEnv someReturns (fun _ => rfl) (by decide) restocking (by decide +kernel)

/-- The two pieces are inspected one after the other, which makes the same key twice. -/
def oneByOne : List Action :=
  wholeCall 0 (restockRequest 1) '6' (by decide)++wholeCall 1 (restockRequest 1) '7' (by decide)

/-- The second piece is on stock, and no movement says so. -/
theorem second_piece_unmoved : ¬∀ (env : Env) (s : System), (∀ i, s.call i=none) →
    (∀ l∈s.db.lines.rows, l.Bounded) → ∀ as,
      (∀ l∈(s.run env as).1.db.lines.rows, l.Bounded) ∧ ∀ e∈(s.run env as).2, e.Exact := by
  intro h
  have hevents : (someReturns.run plainEnv oneByOne).2=
      [.done (restockRequest 1) 1 [1],.done (restockRequest 1) 1 []] := by rfl
  have hexact := (h plainEnv someReturns (fun _ => rfl) (by decide) oneByOne).2
  rw [hevents] at hexact
  have hsecond := (hexact (.done (restockRequest 1) 1 []) (by simp)).2
  cases hsecond

end AardvarkWms.Returns
