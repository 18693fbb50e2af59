import AardvarkWms.Separators

/-! Files of records with their fields between commas, and a reader that takes each kind of line
break for the end of a record. -/
namespace Csv
open Separators

abbrev Field : Type := List Char

abbrev Record : Type := List Field

section Writing

/-- In quotes, with each quote doubled. -/
def quoted (field : Field) : Field :=
  '"'::(field.flatMap (fun c => if c= '"' then ['"','"'] else [c])++['"'])

variable (quotes : Field → Bool)

/-- A field as it is written, in quotes where `quotes` says so. -/
def cell (field : Field) : Field := if quotes field then quoted field else field

def line (record : Record) : List Char := join ',' (record.map (cell quotes))

def file (records : List Record) : List Char := join '\n' (records.map (line quotes))

/-- What has a quote, a comma or a line feed in it is put in quotes. -/
def Covers : Prop :=
  ∀ field : Field, '"'∈field ∨ ','∈field ∨ '\n'∈field → quotes field=true

/-- A carriage return stands in a field only where it is put in quotes. -/
def Closed (field : Field) : Prop := '\r'∈field → quotes field=true

/-- A record of more than one empty field. -/
def Proper (record : Record) : Prop := record≠[] ∧ record≠[[]]

end Writing

inductive Mode
  | start | plain | quoted | closed
  deriving DecidableEq

/-- The records and the fields that were read, and what is read of the next field. After a carriage
return that ended a record a line feed belongs to it. -/
structure Reading where
  records : List Record
  record : Record
  field : Field
  mode : Mode
  returned : Bool

/-- Before a field. -/
def Reading.before (records : List Record) (record : Record) : Reading :=
  ⟨records,record,[],.start,false⟩

def Reading.endRecord (s : Reading) (returned : Bool) : Reading :=
  ⟨s.records++[s.record++[s.field]],[],[],.start,returned⟩

/-- A character outside quotes. -/
def Reading.outside (s : Reading) (c : Char) : Option Reading :=
  if c= ',' then some (.before s.records (s.record++[s.field]))
  else if c= '\n' then some (if s.returned then {s with returned := false} else s.endRecord false)
  else if c= '\r' then some (s.endRecord true)
  else if c= '"' then
    if s.mode=.start then some {s with mode := .quoted, returned := false} else none
  else if s.mode=.closed then none
  else some {s with field := s.field++[c], mode := .plain, returned := false}

def Reading.step (s : Reading) (c : Char) : Option Reading :=
  match s.mode with
  | .quoted =>
    if c= '"' then some {s with mode := .closed} else some {s with field := s.field++[c]}
  | .closed =>
    if c= '"' then some {s with field := s.field++['"'], mode := .quoted} else s.outside c
  | _ => s.outside c

/-- After the last line break there is no record. -/
def Reading.finish (s : Reading) : Option (List Record) :=
  if s.mode=.quoted then none
  else if s.mode=.start ∧ s.record=[] then some s.records
  else some (s.records++[s.record++[s.field]])

def Reading.run (s : Reading) (text : List Char) : Option Reading := text.foldlM Reading.step s

/-- The records of a file, where its quotes are in order. -/
def read (text : List Char) : Option (List Record) :=
  ((Reading.before [] []).run text).bind Reading.finish

section Steps
variable {s s' : Reading} {quotes : Field → Bool} {A : List Record} {fs : Record}
  {field : Field} {t u : List Char}

theorem run_append : s.run (t++u)=(s.run t).bind fun s' => s'.run u := by
  unfold Reading.run
  rw [List.foldlM_append]
  rfl

theorem run_cons (c : Char) : s.run (c::t)=(s.step c).bind fun s' => s'.run t := by
  unfold Reading.run
  rw [List.foldlM_cons]
  rfl

theorem step_records {c : Char} (h : s.step c=some s') : s.records<+:s'.records := by
  have houtside : ∀ s', s.outside c=some s' → s.records<+:s'.records := by
    intro s' h
    unfold Reading.outside at h
    split_ifs at h <;> cases h
    · exact List.prefix_refl _
    · exact List.prefix_refl _
    · exact List.prefix_append _ _
    · exact List.prefix_append _ _
    · exact List.prefix_refl _
    · exact List.prefix_refl _
  unfold Reading.step at h
  cases hmode : s.mode with
  | quoted =>
    simp only [hmode] at h
    split_ifs at h <;> cases h <;> exact List.prefix_refl _
  | closed =>
    simp only [hmode] at h
    split_ifs at h
    · cases h
      exact List.prefix_refl _
    · exact houtside s' h
  | start =>
    simp only [hmode] at h
    exact houtside s' h
  | plain =>
    simp only [hmode] at h
    exact houtside s' h

theorem run_records (t : List Char) :
    ∀ s s' : Reading, s.run t=some s' → s.records<+:s'.records := by
  induction t with
  | nil =>
    intro s s' h
    cases h
    exact List.prefix_refl _
  | cons c t ih =>
    intro s s' h
    rw [run_cons] at h
    obtain ⟨mid,hstep,hrest⟩ := Option.bind_eq_some_iff.mp h
    exact (step_records hstep).trans (ih mid s' hrest)

theorem finish_records {records : List Record} (h : s.finish=some records) :
    s.records<+:records := by
  unfold Reading.finish at h
  split_ifs at h <;> cases h
  · exact List.prefix_refl _
  · exact List.prefix_append _ _

/-- The field was read to its end. -/
structure Reading.At (s : Reading) (A : List Record) (fs : Record) (f : Field) : Prop where
  records : s.records=A
  record : s.record=fs
  field : s.field=f
  mode : s.mode≠.quoted
  returned : s.returned=false
  empty : s.mode=.start → f=[]

theorem Reading.At.outside (h : s.At A fs field) {c : Char} (hc : c≠ '"') :
    s.step c=s.outside c := by
  have hmode := h.mode
  unfold Reading.step
  cases hm : s.mode with
  | quoted => exact absurd hm hmode
  | closed => simp [hc]
  | start => rfl
  | plain => rfl

theorem Reading.At.comma (h : s.At A fs field) : s.step ','=some (.before A (fs++[field])) := by
  rw [h.outside (by decide)]
  simp [Reading.outside,h.records,h.record,h.field]

theorem Reading.At.lineFeed (h : s.At A fs field) :
    s.step '\n'=some (.before (A++[fs++[field]]) []) := by
  rw [h.outside (by decide)]
  simp [Reading.outside,Reading.endRecord,Reading.before,h.records,h.record,h.field,h.returned]

theorem Reading.At.carriageReturn (h : s.At A fs field) :
    s.step '\r'=some ⟨A++[fs++[field]],[],[],.start,true⟩ := by
  rw [h.outside (by decide)]
  simp [Reading.outside,Reading.endRecord,h.records,h.record,h.field]

theorem Reading.At.finish (h : s.At A fs field) (hproper : Proper (fs++[field])) :
    s.finish=some (A++[fs++[field]]) := by
  unfold Reading.finish
  rw [if_neg h.mode,h.records,h.record,h.field]
  refine if_neg fun hempty => hproper.2 ?_
  rw [hempty.2,h.empty hempty.1]
  rfl

theorem run_plain : ∀ (rest : Field) {s : Reading} {field : Field}, s.At A fs field →
    s.mode≠.closed → (∀ c∈rest, c≠ '"' ∧ c≠ ',' ∧ c≠ '\n' ∧ c≠ '\r') →
    ∃ s', s.run rest=some s' ∧ s'.At A fs (field++rest) := by
  intro rest
  induction rest with
  | nil =>
    intro s field h _ _
    exact ⟨s,rfl,by simpa using h⟩
  | cons c rest ih =>
    intro s field h hmode hrest
    have hc := hrest c List.mem_cons_self
    have hstep : s.step c=some ⟨A,fs,field++[c],.plain,false⟩ := by
      rw [h.outside hc.1]
      simp [Reading.outside,hc,hmode,h.records,h.record,h.field]
    have hat : Reading.At ⟨A,fs,field++[c],.plain,false⟩ A fs (field++[c]) := by
      constructor <;> first | rfl | nofun
    obtain ⟨s',hrun,hs'⟩ := ih hat nofun fun d hd => hrest d (List.mem_cons_of_mem c hd)
    refine ⟨s',?_,by simpa using hs'⟩
    rw [run_cons,hstep]
    exact hrun

theorem run_doubled : ∀ (rest field : Field),
    Reading.run ⟨A,fs,field,.quoted,false⟩
      (rest.flatMap fun c => if c= '"' then ['"','"'] else [c])=
      some ⟨A,fs,field++rest,.quoted,false⟩ := by
  intro rest
  induction rest with
  | nil =>
    intro field
    rw [List.append_nil]
    rfl
  | cons c rest ih =>
    intro field
    have hnext := ih (field++[c])
    rw [List.append_assoc] at hnext
    rw [List.flatMap_cons]
    by_cases hc : c= '"'
    · rw [if_pos hc,hc]
      rw [hc] at hnext
      exact hnext
    · have hstep : Reading.step ⟨A,fs,field,.quoted,false⟩ c=
          some ⟨A,fs,field++[c],.quoted,false⟩ := if_neg hc
      rw [if_neg hc,List.singleton_append,run_cons,hstep]
      exact hnext

theorem at_before : (Reading.before A fs).At A fs [] := by
  constructor <;> first | rfl | exact fun _ => rfl | nofun

theorem plain_of_bare (hquotes : Covers quotes) (h : quotes field=false) :
    ∀ c∈field, c≠ '"' ∧ c≠ ',' ∧ c≠ '\n' := by
  have hnone : ¬('"'∈field ∨ ','∈field ∨ '\n'∈field) := by
    intro hmem
    rw [hquotes field hmem] at h
    cases h
  intro c hc
  refine ⟨fun he => hnone (Or.inl (he ▸ hc)),fun he => hnone (Or.inr (Or.inl (he ▸ hc))),
    fun he => hnone (Or.inr (Or.inr (he ▸ hc)))⟩

theorem run_cell (hquotes : Covers quotes) (h : Closed quotes field) :
    ∃ s', (Reading.before A fs).run (cell quotes field)=some s' ∧ s'.At A fs field := by
  unfold cell
  cases hq : quotes field with
  | true =>
    refine ⟨⟨A,fs,field,.closed,false⟩,?_,by constructor <;> first | rfl | nofun⟩
    have hdoubled := @run_doubled A fs field []
    rw [if_pos rfl,quoted,run_cons]
    change (Reading.run ⟨A,fs,[],.quoted,false⟩ _)=_
    rw [run_append,hdoubled]
    rfl
  | false =>
    have hplain : ∀ c∈field, c≠ '"' ∧ c≠ ',' ∧ c≠ '\n' ∧ c≠ '\r' := by
      intro c hc
      have hthree := plain_of_bare hquotes hq c hc
      refine ⟨hthree.1,hthree.2.1,hthree.2.2,fun he => ?_⟩
      rw [h (he ▸ hc)] at hq
      cases hq
    exact run_plain field (at_before : (Reading.before A fs).At A fs []) nofun hplain

theorem run_cells (hquotes : Covers quotes) : ∀ (gs fs : Record),
    (∀ field∈gs, Closed quotes field) →
    (Reading.before A fs).run (gs.flatMap fun field => cell quotes field++[','])=
      some (.before A (fs++gs)) := by
  intro gs
  induction gs with
  | nil =>
    intro fs _
    rw [List.append_nil]
    rfl
  | cons g gs ih =>
    intro fs h
    obtain ⟨s,hrun,hs⟩ := @run_cell quotes A fs g hquotes (h g List.mem_cons_self)
    have hrest := ih (fs++[g]) fun field hfield => h field (List.mem_cons_of_mem g hfield)
    rw [List.append_assoc] at hrest
    rw [List.flatMap_cons,List.append_assoc,run_append,hrun,Option.bind_some,
      List.singleton_append,run_cons,hs.comma,Option.bind_some]
    exact hrest

theorem line_split (fs : Record) (field : Field) (gs : Record) :
    line quotes (fs++field::gs)=(fs.flatMap fun f => cell quotes f++[','])++
      (cell quotes field++(gs.flatMap fun f => ','::cell quotes f)) := by
  unfold line
  rw [List.map_append,List.map_cons,join_split,List.flatMap_map,List.flatMap_map]

theorem file_split (rs : List Record) (r : Record) (qs : List Record) :
    file quotes (rs++r::qs)=(rs.flatMap fun r => line quotes r++['\n'])++
      (line quotes r++(qs.flatMap fun r => '\n'::line quotes r)) := by
  unfold file
  rw [List.map_append,List.map_cons,join_split,List.flatMap_map,List.flatMap_map]

theorem run_line (hquotes : Covers quotes) {r : Record} (hne : r≠[])
    (h : ∀ field∈r, Closed quotes field) :
    ∃ gs field s, r=gs++[field] ∧ (Reading.before A []).run (line quotes r)=some s ∧
      s.At A gs field := by
  obtain ⟨gs,field,rfl⟩ := (List.eq_nil_or_concat' r).resolve_left hne
  have hcells := @run_cells quotes A hquotes gs [] fun f hf => h f (List.mem_append_left _ hf)
  obtain ⟨s,hrun,hs⟩ := @run_cell quotes A gs field hquotes (h field (by simp))
  refine ⟨gs,field,s,rfl,?_,hs⟩
  rw [line_split,run_append,hcells,List.nil_append,Option.bind_some,List.flatMap_nil,
    List.append_nil]
  exact hrun

theorem run_lines (hquotes : Covers quotes) : ∀ (rs A : List Record), (∀ r∈rs, r≠[]) →
    (∀ r∈rs, ∀ field∈r, Closed quotes field) →
    (Reading.before A []).run (rs.flatMap fun r => line quotes r++['\n'])=
      some (.before (A++rs) []) := by
  intro rs
  induction rs with
  | nil =>
    intro A _ _
    rw [List.append_nil]
    rfl
  | cons r rs ih =>
    intro A hne h
    obtain ⟨gs,field,s,hr,hrun,hs⟩ :=
      @run_line quotes A hquotes r (hne r List.mem_cons_self) (h r List.mem_cons_self)
    have hrest := ih (A++[r]) (fun q hq => hne q (List.mem_cons_of_mem r hq))
      fun q hq => h q (List.mem_cons_of_mem r hq)
    rw [List.append_assoc] at hrest
    rw [List.flatMap_cons,List.append_assoc,run_append,hrun,Option.bind_some,
      List.singleton_append,run_cons,hs.lineFeed,Option.bind_some,← hr]
    exact hrest

end Steps

section Main
variable {quotes : Field → Bool} {records : List Record}

theorem read_file (hquotes : Covers quotes) (hproper : ∀ r∈records, Proper r)
    (h : ∀ r∈records, ∀ field∈r, Closed quotes field) :
    read (file quotes records)=some records := by
  cases List.eq_nil_or_concat' records with
  | inl hnil =>
    rw [hnil]
    rfl
  | inr hlast =>
    obtain ⟨rs,r,rfl⟩ := hlast
    have hr : r∈rs++[r] := by simp
    have hlines := run_lines hquotes rs [] (fun q hq => (hproper q (List.mem_append_left _ hq)).1)
      fun q hq => h q (List.mem_append_left _ hq)
    obtain ⟨gs,field,s,hsplit,hrun,hs⟩ :=
      @run_line quotes rs hquotes r (hproper r hr).1 (h r hr)
    have hfinish := hs.finish (hsplit ▸ hproper r hr)
    unfold read
    rw [file_split,run_append,hlines,List.nil_append,Option.bind_some,List.flatMap_nil,
      List.append_nil,hrun,Option.bind_some,hfinish,← hsplit]

theorem first_failing {α : Type} {P : α → Prop} (xs : List α) (h : ¬∀ x∈xs, P x) :
    ∃ ys x zs, xs=ys++x::zs ∧ (∀ y∈ys, P y) ∧ ¬P x := by
  induction xs with
  | nil => exact absurd (fun _ hx => by cases hx) h
  | cons x xs ih =>
    by_cases hx : P x
    · have hrest : ¬∀ y∈xs, P y := fun hall => h (List.forall_mem_cons.mpr ⟨hx,hall⟩)
      obtain ⟨ys,z,zs,hxs,hys,hz⟩ := ih hrest
      exact ⟨x::ys,z,zs,by rw [hxs]; rfl,List.forall_mem_cons.mpr ⟨hx,hys⟩,hz⟩
    · exact ⟨[],x,xs,rfl,by simp,hx⟩

theorem read_broken (hquotes : Covers quotes) {rs qs : List Record} {fs gs : Record}
    {field : Field} (hrs : ∀ r∈rs, r≠[] ∧ ∀ f∈r, Closed quotes f)
    (hfs : ∀ f∈fs, Closed quotes f) (hfield : ¬Closed quotes field) :
    read (file quotes (rs++(fs++field::gs)::qs))≠some (rs++(fs++field::gs)::qs) := by
  intro hread
  have hmem : '\r'∈field := by
    by_contra hnone
    exact hfield fun hmem => absurd hmem hnone
  have hbare : quotes field=false := by
    cases hq : quotes field with
    | true => exact absurd (fun _ => hq) hfield
    | false => rfl
  obtain ⟨part,rest,rfl,hpart⟩ := List.eq_append_cons_of_mem hmem
  have hplain : ∀ c∈part, c≠ '"' ∧ c≠ ',' ∧ c≠ '\n' ∧ c≠ '\r' := by
    have hall := plain_of_bare hquotes hbare
    intro c hc
    have hthree := hall c (List.mem_append_left _ hc)
    exact ⟨hthree.1,hthree.2.1,hthree.2.2,fun he => hpart (he ▸ hc)⟩
  have hlines := run_lines hquotes rs [] (fun r hr => (hrs r hr).1) fun r hr => (hrs r hr).2
  have hcells := @run_cells quotes rs hquotes fs [] hfs
  obtain ⟨s,hrun,hs⟩ :=
    run_plain part (at_before : (Reading.before rs fs).At rs fs []) nofun hplain
  -- what follows the carriage return
  unfold read at hread
  rw [file_split,run_append,hlines,List.nil_append,Option.bind_some,line_split,List.append_assoc,
    run_append,hcells,List.nil_append,Option.bind_some,cell,hbare] at hread
  simp only [Bool.false_eq_true,if_false,List.append_assoc,List.cons_append] at hread
  rw [run_append,hrun,Option.bind_some,run_cons,hs.carriageReturn,Option.bind_some] at hread
  obtain ⟨last,hrest,hfinish⟩ := Option.bind_eq_some_iff.mp hread
  have hprefix := (run_records _ _ _ hrest).trans (finish_records hfinish)
  rw [List.nil_append,List.prefix_append_right_inj] at hprefix
  have hrecord := (List.cons_prefix_cons.mp hprefix).1
  have hsame := (List.cons.inj ((List.append_right_inj fs).mp hrecord)).1
  have hlength := congrArg List.length hsame
  simp at hlength

theorem read_file_iff (hquotes : Covers quotes) (hproper : ∀ r∈records, Proper r) :
    read (file quotes records)=some records ↔
      ∀ r∈records, ∀ field∈r, Closed quotes field := by
  constructor
  · intro hread
    by_contra hnot
    obtain ⟨rs,r,qs,hrecords,hrs,hr⟩ := first_failing records hnot
    obtain ⟨fs,field,gs,hfields,hfs,hfield⟩ := first_failing r hr
    rw [hrecords,hfields] at hread
    have hne : ∀ q∈rs, q≠[] ∧ ∀ f∈q, Closed quotes f := fun q hq =>
      ⟨(hproper q (hrecords ▸ List.mem_append_left _ hq)).1,hrs q hq⟩
    exact read_broken hquotes hne hfs hfield hread
  · exact read_file hquotes hproper

end Main

end Csv
