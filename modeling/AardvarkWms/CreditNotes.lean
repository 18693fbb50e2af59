import AardvarkWms.BillingWrites

/-! Credit notes, and what they may take from the lines of an invoice. -/
namespace AardvarkWms.Billing

open OrderUpdates (Uuid someUuid)

def BillingDb.isFinalizedNote (db : BillingDb) (noteId : Uuid) : Bool :=
  (db.notes.get? noteId).any (·.status=.FINALIZED)

def BillingDb.isVoided (db : BillingDb) (invoiceId : Uuid) : Bool :=
  (db.invoices.get? invoiceId).any (·.status=.VOIDED)

/-- The gross amounts of some credit note lines of an invoice line. -/
def grossOf (key : Uuid × ℕ) (ks : List BillingCreditNoteLine) : ℕ :=
  ((ks.filter fun k => k.invoiceLineId=key).map (·.grossAmountMinor)).sum

/-- What the finalized credit notes take from an invoice line. -/
def BillingDb.credited (db : BillingDb) (key : Uuid × ℕ) : ℕ :=
  grossOf key (db.noteLines.filter fun k => db.isFinalizedNote k.creditNoteId)

/-- No invoice line is credited beyond its gross amount. -/
def BillingDb.Bounded (db : BillingDb) : Prop :=
  ∀ l∈db.lines.rows, db.credited l.key≤l.grossAmountMinor

/-- No note that is finalized now, and was not, is of an invoice that was voided. -/
def BillingDb.NoneAgainstVoided (db db' : BillingDb) : Prop :=
  ∀ n∈db'.notes.rows, n.status=.FINALIZED → db.isFinalizedNote n.id=false →
    db.isVoided n.invoiceId=false

/-- A line of a finalized credit note is of this invoice line. -/
def BillingDb.isCredited (db : BillingDb) (key : Uuid × ℕ) : Bool :=
  db.noteLines.any fun k => k.invoiceLineId=key && db.isFinalizedNote k.creditNoteId

/-- The invoice is not voided, and none of its lines in the note that costs anything is credited. -/
def BillingDb.mayCredit (db : BillingDb) (invoiceId : Uuid) (lines : List ((Uuid × ℕ) × ℕ)) : Bool :=
  !db.isVoided invoiceId && lines.all fun x => x.2=0 || !db.isCredited x.1

def BillingDb.noteLinesOf (db : BillingDb) (noteId : Uuid) : List BillingCreditNoteLine :=
  db.noteLines.filter fun k => k.creditNoteId=noteId

/-- What a write that finalizes a credit note needs of the rows that it finds. -/
def creditable (db : BillingDb) (_ : ℕ → Uuid) : Phase → Bool
  | .insertNote d => !d.finalize || db.mayCredit d.invoice.id
      (d.lines.map fun l => (l.key,l.grossAmountMinor))
  | .finalizeNote n => db.isFinalizedNote n.id || db.mayCredit n.invoiceId
      ((db.noteLinesOf n.id).map fun k => (k.invoiceLineId,k.grossAmountMinor))
  | _ => true

theorem grossOf_append (key : Uuid × ℕ) (ks ks' : List BillingCreditNoteLine) :
    grossOf key (ks++ks')=grossOf key ks+grossOf key ks' := by
  simp [grossOf]

theorem grossOf_eq_zero {key : Uuid × ℕ} {ks : List BillingCreditNoteLine}
    (h : ∀ k∈ks, k.invoiceLineId=key → k.grossAmountMinor=0) : grossOf key ks=0 := by
  unfold grossOf
  rw [List.sum_eq_zero_iff]
  intro x hx
  obtain ⟨k,hk,rfl⟩ := List.mem_map.mp hx
  obtain ⟨hmem,hkey⟩ := List.mem_filter.mp hk
  exact h k hmem (of_decide_eq_true hkey)

theorem grossOf_filter_or (key : Uuid × ℕ) (ks : List BillingCreditNoteLine)
    (p q : BillingCreditNoteLine → Bool) :
    grossOf key (ks.filter fun k => p k || q k)≤grossOf key (ks.filter p)+grossOf key (ks.filter q) := by
  induction ks with
  | nil => exact Nat.zero_le _
  | cons k ks ih =>
    have hcons : ∀ (r : BillingCreditNoteLine → Bool), grossOf key ((k::ks).filter r)=
        (if r k=true ∧ k.invoiceLineId=key then k.grossAmountMinor else 0)+
          grossOf key (ks.filter r) := by
      intro r
      unfold grossOf
      by_cases hr : r k=true
      · by_cases hk : k.invoiceLineId=key <;> simp [hr,hk]
      · simp [hr]
    rw [hcons,hcons,hcons]
    by_cases hk : k.invoiceLineId=key
    · by_cases hp : p k=true
      · simp only [hp,Bool.true_or,hk,and_self,if_true]
        omega
      · by_cases hq : q k=true
        · simp only [hp,hq,Bool.or_true,hk,and_self,if_true]
          omega
        · simp only [hp,hq,Bool.or_self,Bool.false_eq_true,false_and,if_false]
          omega
    · simp only [hk,and_false,if_false]
      omega

theorem grossOf_le_of_nodup {key : Uuid × ℕ} {g : ℕ} {ks : List BillingCreditNoteLine}
    (hnodup : (ks.map (·.invoiceLineId)).Nodup)
    (h : ∀ k∈ks, k.invoiceLineId=key → k.grossAmountMinor≤g) : grossOf key ks≤g := by
  induction ks with
  | nil => exact Nat.zero_le _
  | cons k ks ih =>
    rw [List.map_cons,List.nodup_cons] at hnodup
    have hrest := ih hnodup.2 fun m hm => h m (List.mem_cons_of_mem k hm)
    by_cases hk : k.invoiceLineId=key
    · have hzero : grossOf key ks=0 := by
        refine grossOf_eq_zero ?_
        intro m hm hmkey
        exact absurd (List.mem_map.mpr ⟨m,hm,hmkey.trans hk.symm⟩) hnodup.1
      have hfirst := h k List.mem_cons_self hk
      have hsum : grossOf key (k::ks)=k.grossAmountMinor+grossOf key ks := by
        simp [grossOf,hk]
      omega
    · have hsum : grossOf key (k::ks)=grossOf key ks := by
        simp [grossOf,hk]
      omega

section Notes
variable {env : Env} {db db' : BillingDb}

/-- What the credit notes keep. -/
structure BillingDb.CreditBooks (db : BillingDb) : Prop where
  bounded : db.Bounded
  each : ∀ noteId, ∀ l∈db.lines.rows, grossOf l.key (db.noteLinesOf noteId)≤l.grossAmountMinor
  line : ∀ k∈db.noteLines, db.notes.get? k.creditNoteId≠none ∧ db.lines.get? k.invoiceLineId≠none

theorem credited_eq_zero {key : Uuid × ℕ} (h : db.isCredited key=false) : db.credited key=0 := by
  refine grossOf_eq_zero ?_
  intro k hk hkey
  obtain ⟨hmem,hfinal⟩ := List.mem_filter.mp hk
  have hline := List.any_eq_false.mp h k hmem
  simp [hkey,hfinal] at hline

theorem gross_of_fixed {l l' : BillingInvoiceLine} (h : l.fixed=l'.fixed) :
    l.key=l'.key ∧ l.grossAmountMinor=l'.grossAmountMinor := by
  have hkey : l.fixed.key=l'.fixed.key := by rw [h]
  have hgross : l.fixed.grossAmountMinor=l'.fixed.grossAmountMinor := by rw [h]
  exact ⟨hkey,hgross⟩

theorem BillingDb.CreditBooks.of_lines (h : db.CreditBooks) (hnotes : db'.notes=db.notes)
    (hnoteLines : db'.noteLines=db.noteLines)
    (hold : ∀ l'∈db'.lines.rows, (∃ l∈db.lines.rows, l.fixed=l'.fixed) ∨ db.lines.get? l'.key=none)
    (hkeeps : Table.Keeps db.lines db'.lines) : db'.CreditBooks := by
  have hfresh : ∀ (key : Uuid × ℕ) (ks : List BillingCreditNoteLine), db.lines.get? key=none →
      (∀ k∈ks, k∈db.noteLines) → grossOf key ks=0 := by
    intro key ks hnone hsub
    refine grossOf_eq_zero ?_
    intro k hk hkey
    exact absurd (hkey ▸ hnone) (h.line k (hsub k hk)).2
  refine ⟨?_,?_,?_⟩
  · intro l' hl'
    unfold BillingDb.credited BillingDb.isFinalizedNote
    rw [hnotes,hnoteLines]
    cases hold l' hl' with
    | inl hsame =>
      obtain ⟨l,hl,hfixed⟩ := hsame
      have hb := h.bounded l hl
      obtain ⟨hkey,hgross⟩ := gross_of_fixed hfixed
      rw [← hgross,← hkey]
      exact hb
    | inr hnew =>
      rw [hfresh l'.key _ hnew fun k hk => (List.mem_filter.mp hk).1]
      exact Nat.zero_le _
  · intro noteId l' hl'
    unfold BillingDb.noteLinesOf
    rw [hnoteLines]
    cases hold l' hl' with
    | inl hsame =>
      obtain ⟨l,hl,hfixed⟩ := hsame
      have hb := h.each noteId l hl
      obtain ⟨hkey,hgross⟩ := gross_of_fixed hfixed
      rw [← hgross,← hkey]
      exact hb
    | inr hnew =>
      rw [hfresh l'.key _ hnew fun k hk => (List.mem_filter.mp hk).1]
      exact Nat.zero_le _
  · intro k hk
    rw [hnoteLines] at hk
    rw [hnotes]
    obtain ⟨hnote,hline⟩ := h.line k hk
    exact ⟨hnote,hkeeps _ hline⟩

theorem credited_add_le {key : Uuid × ℕ} {g : ℕ} {ks : List BillingCreditNoteLine}
    (hbound : db.credited key≤g) (heach : grossOf key ks≤g)
    (hmay : ∀ k∈ks, k.grossAmountMinor=0 ∨ db.isCredited k.invoiceLineId=false) :
    db.credited key+grossOf key ks≤g := by
  cases hcredited : db.isCredited key with
  | false =>
    rw [credited_eq_zero hcredited,Nat.zero_add]
    exact heach
  | true =>
    have hzero : grossOf key ks=0 := by
      refine grossOf_eq_zero ?_
      intro k hk hkey
      cases hmay k hk with
      | inl hnone => exact hnone
      | inr hfree =>
        rw [hkey,hcredited] at hfree
        cases hfree
    omega

theorem mayCredit_lines {invoiceId : Uuid} {lines : List ((Uuid × ℕ) × ℕ)}
    (h : db.mayCredit invoiceId lines=true) : db.isVoided invoiceId=false ∧
      ∀ x∈lines, x.2=0 ∨ db.isCredited x.1=false := by
  obtain ⟨hvoided,hlines⟩ := Bool.and_eq_true_iff.mp h
  refine ⟨by simpa using hvoided,?_⟩
  intro x hx
  have hline := List.all_eq_true.mp hlines x hx
  simpa using hline

theorem mem_buildCreditNoteLines {id : Uuid} {ls : List BillingInvoiceLine}
    {k : BillingCreditNoteLine} (h : k∈buildCreditNoteLines id ls) : k.creditNoteId=id ∧
      ∃ l∈ls, k.invoiceLineId=l.key ∧ k.grossAmountMinor=l.grossAmountMinor := by
  obtain ⟨⟨l,n⟩,hx,rfl⟩ := List.mem_map.mp h
  exact ⟨rfl,l,List.fst_mem_of_mem_zipIdx hx,rfl,rfl⟩

theorem keys_buildCreditNoteLines (id : Uuid) (ls : List BillingInvoiceLine) :
    (buildCreditNoteLines id ls).map (·.invoiceLineId)=ls.map BillingInvoiceLine.key := by
  unfold buildCreditNoteLines
  rw [List.map_map]
  conv_rhs => rw [← List.zipIdx_map_fst 0 ls,List.map_map]
  rfl

section Store
variable {d : CreditDraft} {id : Uuid} {note : BillingCreditNote}

theorem NoteStored.isFinalizedNote (h : NoteStored db d id db' note) (x : Uuid) :
    db'.isFinalizedNote x=if x=id then d.finalize else db.isFinalizedNote x := by
  have hid : note.id=id := by rw [h.isNote]; rfl
  have hstatus : note.status=if d.finalize then .FINALIZED else .DRAFT := by rw [h.isNote]; rfl
  unfold BillingDb.isFinalizedNote
  rw [h.left]
  simp only
  split
  · rename_i hx
    have hget := Table.get?_insert_new (hid ▸ h.new)
    rw [hid] at hget
    rw [hx,hget]
    cases hd : d.finalize <;> simp [hstatus,hd]
  · rename_i hx
    rw [Table.get?_insert_ne _ (hid ▸ hx)]

theorem NoteStored.credited (h : NoteStored db d id db' note)
    (hline : ∀ k∈db.noteLines, db.notes.get? k.creditNoteId≠none) (key : Uuid × ℕ) :
    db'.credited key=db.credited key+
      if d.finalize then grossOf key (buildCreditNoteLines id d.lines) else 0 := by
  have hlines : db'.noteLines=db.noteLines++buildCreditNoteLines id d.lines := by rw [h.left]
  have hold : db.noteLines.filter (fun k => db'.isFinalizedNote k.creditNoteId)=
      db.noteLines.filter fun k => db.isFinalizedNote k.creditNoteId := by
    refine List.filter_congr ?_
    intro k hk
    have hne : k.creditNoteId≠id := by
      intro hsame
      exact hline k hk (hsame ▸ h.new)
    rw [h.isFinalizedNote,if_neg hne]
  have hnew : (buildCreditNoteLines id d.lines).filter (fun k => db'.isFinalizedNote k.creditNoteId)=
      (buildCreditNoteLines id d.lines).filter fun _ => d.finalize := by
    refine List.filter_congr ?_
    intro k hk
    rw [h.isFinalizedNote,if_pos (mem_buildCreditNoteLines hk).1]
  unfold BillingDb.credited
  rw [hlines,List.filter_append,grossOf_append,hold,hnew]
  cases d.finalize with
  | true => simp
  | false => simp [grossOf]

theorem grossOf_build_le (hhas : db.Has d.invoice d.lines) {l : BillingInvoiceLine}
    (hl : l∈db.lines.rows) : grossOf l.key (buildCreditNoteLines id d.lines)≤l.grossAmountMinor := by
  refine grossOf_le_of_nodup ?_ ?_
  · rw [keys_buildCreditNoteLines]
    exact hhas.2.1
  · intro k hk hkey
    obtain ⟨_,m,hm,hmkey,hmgross⟩ := mem_buildCreditNoteLines hk
    obtain ⟨_,stored,hstored,hfixed⟩ := hhas.2.2 m hm
    rw [← hmkey,hkey,Table.get?_key hl] at hstored
    cases hstored
    rw [hmgross,← (gross_of_fixed hfixed).2]

theorem NoteStored.noteLinesOf (h : NoteStored db d id db' note)
    (hline : ∀ k∈db.noteLines, db.notes.get? k.creditNoteId≠none) (x : Uuid) :
    db'.noteLinesOf x=if x=id then buildCreditNoteLines id d.lines else db.noteLinesOf x := by
  have hlines : db'.noteLines=db.noteLines++buildCreditNoteLines id d.lines := by rw [h.left]
  unfold BillingDb.noteLinesOf
  rw [hlines,List.filter_append]
  split
  · rename_i hx
    subst hx
    have hold : db.noteLines.filter (fun k => k.creditNoteId=x)=[] := by
      refine List.filter_eq_nil_iff.mpr ?_
      intro k hk hsame
      exact hline k hk (of_decide_eq_true hsame ▸ h.new)
    rw [hold,List.nil_append]
    refine List.filter_eq_self.mpr ?_
    intro k hk
    exact decide_eq_true (mem_buildCreditNoteLines hk).1
  · rename_i hx
    have hnew : (buildCreditNoteLines id d.lines).filter (fun k => k.creditNoteId=x)=[] := by
      refine List.filter_eq_nil_iff.mpr ?_
      intro k hk hsame
      exact hx ((of_decide_eq_true hsame).symm.trans (mem_buildCreditNoteLines hk).1)
    rw [hnew,List.append_nil]

theorem NoteStored.creditBooks (h : NoteStored db d id db' note) (hbooks : db.CreditBooks)
    (hhas : db.Has d.invoice d.lines) {gen : ℕ → Uuid}
    (hmay : creditable db gen (.insertNote d)=true) : db'.CreditBooks := by
  have hnotes : ∀ k∈db.noteLines, db.notes.get? k.creditNoteId≠none := fun k hk => (hbooks.line k hk).1
  have hlines : db'.lines=db.lines := by rw [h.left]
  have hid : note.id=id := by rw [h.isNote]; rfl
  refine ⟨?_,?_,?_⟩
  · intro l hl
    rw [hlines] at hl
    rw [h.credited hnotes]
    split
    · rename_i hd
      refine credited_add_le (hbooks.bounded l hl) (grossOf_build_le hhas hl) ?_
      intro k hk
      obtain ⟨_,m,hm,hmkey,hmgross⟩ := mem_buildCreditNoteLines hk
      simp only [creditable,hd,Bool.not_true,Bool.false_or] at hmay
      have hfree := (mayCredit_lines hmay).2 (m.key,m.grossAmountMinor) (List.mem_map.mpr ⟨m,hm,rfl⟩)
      rw [hmgross,hmkey]
      exact hfree
    · exact hbooks.bounded l hl
  · intro noteId l hl
    rw [hlines] at hl
    rw [h.noteLinesOf hnotes]
    split
    · exact grossOf_build_le hhas hl
    · exact hbooks.each noteId l hl
  · intro k hk
    rw [h.left] at hk ⊢
    cases List.mem_append.mp hk with
    | inl hold =>
      obtain ⟨hnote,hline⟩ := hbooks.line k hold
      have hgrows : Table.Grows BillingCreditNote.fixed db.notes (db.notes.insert note) :=
        Table.grows_insert _ _
      exact ⟨hgrows.keeps _ hnote,hline⟩
    | inr hnew =>
      obtain ⟨hnote,m,hm,hmkey,_⟩ := mem_buildCreditNoteLines hnew
      obtain ⟨_,stored,hstored,_⟩ := hhas.2.2 m hm
      refine ⟨?_,?_⟩
      · rw [hnote,← hid]
        simp only
        rw [Table.get?_insert_new (hid ▸ h.new)]
        exact Option.some_ne_none _
      · rw [hmkey]
        simp only
        rw [hstored]
        exact Option.some_ne_none _

theorem NoteStored.noneAgainstVoided (h : NoteStored db d id db' note) {gen : ℕ → Uuid}
    (hmay : creditable db gen (.insertNote d)=true) : db.NoneAgainstVoided db' := by
  intro n hn hfinal hnot
  have hid : note.id=id := by rw [h.isNote]; rfl
  have hrows : db'.notes.rows=db.notes.rows++[note] := by
    rw [h.left]
    exact Table.rows_insert (hid ▸ h.new)
  rw [hrows] at hn
  cases List.mem_append.mp hn with
  | inl hold =>
    unfold BillingDb.isFinalizedNote at hnot
    rw [Table.get?_key hold,Option.any_some,hfinal] at hnot
    cases hnot
  | inr hnew =>
    have hsame := List.mem_singleton.mp hnew
    subst hsame
    rw [h.isNote] at hfinal ⊢
    have hd : d.finalize=true := by
      by_contra hdraft
      simp [CreditDraft.note,hdraft] at hfinal
    simp only [creditable,hd,Bool.not_true,Bool.false_or] at hmay
    exact (mayCredit_lines hmay).1

end Store

section Finalize
variable {read : BillingCreditNote} {gen : ℕ → Uuid}

theorem finalizeNote_isFinalizedNote (hfound : db.notes.get? read.id≠none) (x : Uuid) :
    {db with notes := setNoteStatus db.notes read.id .FINALIZED}.isFinalizedNote x=
      (db.isFinalizedNote x || decide (x=read.id)) := by
  unfold BillingDb.isFinalizedNote setNoteStatus
  simp only
  rw [Table.get?_modify]
  by_cases hx : x=read.id
  · subst hx
    obtain ⟨n,hn⟩ := Option.ne_none_iff_exists'.mp hfound
    simp [hn]
  · simp [hx]

theorem finalizeNote_creditBooks (hbooks : db.CreditBooks) (hfound : db.notes.get? read.id≠none)
    (hmay : creditable db gen (.finalizeNote read)=true) :
    {db with notes := setNoteStatus db.notes read.id .FINALIZED}.CreditBooks := by
  refine ⟨?_,hbooks.each,?_⟩
  · intro l hl
    have hb := hbooks.bounded l hl
    have hle : {db with notes := setNoteStatus db.notes read.id .FINALIZED}.credited l.key≤
        db.credited l.key+grossOf l.key (db.noteLinesOf read.id) := by
      unfold BillingDb.credited
      simp only [finalizeNote_isFinalizedNote hfound]
      exact grossOf_filter_or l.key db.noteLines _ _
    cases Bool.or_eq_true_iff.mp hmay with
    | inl hfinal =>
      have hsame : {db with notes := setNoteStatus db.notes read.id .FINALIZED}.credited l.key=
          db.credited l.key := by
        unfold BillingDb.credited
        simp only [finalizeNote_isFinalizedNote hfound]
        congr 1
        refine List.filter_congr ?_
        intro k hk
        by_cases hk : k.creditNoteId=read.id
        · rw [hk,hfinal,Bool.true_or]
        · rw [decide_eq_false hk,Bool.or_false]
      rw [hsame]
      exact hb
    | inr hmay =>
      refine hle.trans (credited_add_le hb (hbooks.each read.id l hl) ?_)
      intro k hk
      exact (mayCredit_lines hmay).2 (k.invoiceLineId,k.grossAmountMinor) (List.mem_map.mpr ⟨k,hk,rfl⟩)
  · intro k hk
    obtain ⟨hnote,hline⟩ := hbooks.line k hk
    exact ⟨(grows_setNoteStatus db.notes read.id .FINALIZED).keeps _ hnote,hline⟩

theorem finalizeNote_noneAgainstVoided
    (hknown : ∃ n, db.notes.get? read.id=some n ∧ n.fixed=read.fixed)
    (hmay : creditable db gen (.finalizeNote read)=true) :
    db.NoneAgainstVoided {db with notes := setNoteStatus db.notes read.id .FINALIZED} := by
  intro n' hn' hfinal hnot
  obtain ⟨n,hn,hchanged⟩ := List.mem_map.mp hn'
  have hstay : ∀ m∈db.notes.rows, m.status=.FINALIZED → db.isFinalizedNote m.id=true := by
    intro m hm hmfinal
    unfold BillingDb.isFinalizedNote
    rw [Table.get?_key hm]
    exact decide_eq_true hmfinal
  split at hchanged
  · rename_i hid
    subst hchanged
    obtain ⟨stored,hstored,hfixed⟩ := hknown
    have hsame : stored=n := by
      rw [← hid,Table.get?_key hn] at hstored
      exact (Option.some.inj hstored).symm
    subst hsame
    have hinvoice : stored.fixed.invoiceId=read.fixed.invoiceId := by rw [hfixed]
    change stored.invoiceId=read.invoiceId at hinvoice
    change db.isFinalizedNote stored.id=false at hnot
    cases Bool.or_eq_true_iff.mp hmay with
    | inl hdone =>
      rw [hid,hdone] at hnot
      cases hnot
    | inr hmay =>
      have hvoided := (mayCredit_lines hmay).1
      rw [← hinvoice] at hvoided
      exact hvoided
  · subst hchanged
    rw [hstay n hn hfinal] at hnot
    cases hnot

end Finalize

section Runs
variable {gen : ℕ → Uuid} {c : Call}

theorem BillingDb.SameBooks.creditBooks (h : db.SameBooks db') (hbooks : db.CreditBooks) :
    db'.CreditBooks := by
  refine hbooks.of_lines h.notes h.noteLines ?_ ?_
  · rw [h.lines]
    exact fun l hl => .inl ⟨l,hl,rfl⟩
  · rw [h.lines]
    exact fun _ hx => hx

theorem noneAgainstVoided_of_notes (h : db'.notes=db.notes) : db.NoneAgainstVoided db' := by
  intro n hn hfinal hnot
  rw [h] at hn
  unfold BillingDb.isFinalizedNote at hnot
  rw [Table.get?_key hn,Option.any_some,hfinal] at hnot
  cases hnot

theorem Stored.creditBooks {d : InvoiceDraft} {id : Uuid} {invoice : BillingInvoice}
    (h : Stored env db d id db' invoice) (hbooks : db.CreditBooks) : db'.CreditBooks := by
  refine hbooks.of_lines h.rest.1 h.rest.2.1 ?_ h.extends.lines.keeps
  intro l hl
  rw [h.inserted.rows] at hl
  cases List.mem_append.mp hl with
  | inl hold => exact .inl ⟨l,hold,rfl⟩
  | inr hnew => exact .inr (h.inserted.fresh l hnew)

theorem BillingWrite.creditBooks (h : BillingWrite env gen c db db') (hknown : c.phase.Known env db)
    (hmay : creditable db gen c.phase=true) (hbooks : db.CreditBooks) : db'.CreditBooks := by
  cases h with
  | none => exact hbooks
  | upsert u events row _ _ => exact ⟨hbooks.bounded,hbooks.each,hbooks.line⟩
  | upserts us events rows _ _ => exact ⟨hbooks.bounded,hbooks.each,hbooks.line⟩
  | voidEvent read _ => exact ⟨hbooks.bounded,hbooks.each,hbooks.line⟩
  | insertInvoice d _ invoice _ hstore => exact (storeInvoice_ok hstore).creditBooks hbooks
  | finalizeInvoice i ids _ => exact ⟨hbooks.bounded,hbooks.each,hbooks.line⟩
  | voidInvoice i ids released _ =>
    have hext := storeVoid_extends db i ids released
    refine hbooks.of_lines rfl rfl ?_ hext.lines.keeps
    intro l' hl'
    obtain ⟨l,hl,hchanged⟩ := List.mem_map.mp hl'
    refine .inl ⟨l,hl,?_⟩
    split at hchanged
    · rw [← hchanged]
      rfl
    · rw [hchanged]
  | insertNote d _ note hphase hstore =>
    rw [hphase] at hknown hmay
    exact (storeNote_ok hstore).creditBooks hbooks hknown.1 hmay
  | finalizeNote read hphase =>
    rw [hphase] at hknown hmay
    obtain ⟨n,hn,_⟩ := hknown
    refine finalizeNote_creditBooks hbooks ?_ hmay
    rw [hn]
    exact Option.some_ne_none _

theorem BillingWrite.noneAgainstVoided (h : BillingWrite env gen c db db')
    (hknown : c.phase.Known env db) (hmay : creditable db gen c.phase=true) :
    db.NoneAgainstVoided db' := by
  cases h with
  | none => exact noneAgainstVoided_of_notes rfl
  | upsert u events row _ _ => exact noneAgainstVoided_of_notes rfl
  | upserts us events rows _ _ => exact noneAgainstVoided_of_notes rfl
  | voidEvent read _ => exact noneAgainstVoided_of_notes rfl
  | insertInvoice d _ invoice _ hstore =>
    exact noneAgainstVoided_of_notes (storeInvoice_ok hstore).rest.1
  | finalizeInvoice i ids _ => exact noneAgainstVoided_of_notes rfl
  | voidInvoice i ids released _ => exact noneAgainstVoided_of_notes rfl
  | insertNote d _ note hphase hstore =>
    rw [hphase] at hmay
    exact (storeNote_ok hstore).noneAgainstVoided hmay
  | finalizeNote read hphase =>
    rw [hphase] at hknown hmay
    exact finalizeNote_noneAgainstVoided hknown hmay

theorem creditBooks_initial (places : OrderUpdates.Places) :
    (System.initial places).db.CreditBooks :=
  ⟨fun _ hl => (List.not_mem_nil hl).elim,fun _ _ hl => (List.not_mem_nil hl).elim,
    fun _ hk => (List.not_mem_nil hk).elim⟩

/-- In a run that finalizes only credit notes whose invoice is not voided and whose lines are not
credited yet, no line is credited beyond its amount. -/
theorem credit_notes (places : OrderUpdates.Places) (as : List Action)
    (hmay : (System.initial places).RunMeets env
      (fun db gen phase => creditable db gen phase=true) as) :
    (System.run env (System.initial places) as).db.Bounded ∧
    ∀ bs a cs, as=bs++a::cs → (System.run env (System.initial places) bs).db.NoneAgainstVoided
      (System.run env (System.initial places) (bs++[a])).db := by
  have hknown := known_initial env places
  have hbooks : ∀ bs : List Action, (System.initial places).RunMeets env
      (fun db gen phase => creditable db gen phase=true) bs →
      (System.run env (System.initial places) bs).db.CreditBooks :=
    fun bs hbs => run_invariant (fun _ _ h => h.creditBooks) (fun _ _ _ _ h => h.creditBooks) bs
      hknown (creditBooks_initial places) hbs
  refine ⟨(hbooks as hmay).bounded,?_⟩
  intro bs a cs hsplit
  subst hsplit
  have hstep := (runMeets_append.mp hmay).2.1
  have hbsknown := known_run bs hknown
  rw [run_append]
  cases (act_cases hbsknown a).1 with
  | same h => exact noneAgainstVoided_of_notes h.notes
  | write i gen c hact hc hw =>
    subst hact
    exact hw.noneAgainstVoided (hbsknown i c hc) (hstep c hc)

end Runs

def demoCredit (i : ℕ) (id : Uuid) : List Action :=
  demoCall i id 6 (.createBillingCreditNote "ACME".toList "INV-1".toList {finalize := true})

theorem credit_notes_demo :
    (System.run demoEnv (System.initial demoPlaces)
      (demoInvoiced++demoCredit 3 (someUuid '5' OrderUpdates.isHex_five))).db.Bounded ∧
    ∀ bs a cs, demoInvoiced++demoCredit 3 (someUuid '5' OrderUpdates.isHex_five)=bs++a::cs →
      (System.run demoEnv (System.initial demoPlaces) bs).db.NoneAgainstVoided
        (System.run demoEnv (System.initial demoPlaces) (bs++[a])).db :=
  credit_notes demoPlaces (demoInvoiced++demoCredit 3 (someUuid '5' OrderUpdates.isHex_five)) (by decide +kernel)

/-- Two credit notes of the whole invoice. -/
theorem credited_twice : ¬∀ env places as,
    (System.run env (System.initial places) as).db.Bounded ∧
    ∀ bs a cs, as=bs++a::cs → (System.run env (System.initial places) bs).db.NoneAgainstVoided
      (System.run env (System.initial places) (bs++[a])).db := by
  intro h
  have hbounded := (h demoEnv demoPlaces (demoInvoiced++(demoCredit 3 (someUuid '5' OrderUpdates.isHex_five)++
    demoCredit 4 (someUuid '6' OrderUpdates.isHex_six)))).1
  have hline : ∃ l∈(System.run demoEnv (System.initial demoPlaces)
      (demoInvoiced++(demoCredit 3 (someUuid '5' OrderUpdates.isHex_five)++
        demoCredit 4 (someUuid '6' OrderUpdates.isHex_six)))).db.lines.rows,
      l.grossAmountMinor < (System.run demoEnv (System.initial demoPlaces)
        (demoInvoiced++(demoCredit 3 (someUuid '5' OrderUpdates.isHex_five)++
          demoCredit 4 (someUuid '6' OrderUpdates.isHex_six)))).db.credited l.key := by decide +kernel
  obtain ⟨l,hl,hover⟩ := hline
  exact absurd (hbounded l hl) (Nat.not_le.mpr hover)

end Notes
end AardvarkWms.Billing
