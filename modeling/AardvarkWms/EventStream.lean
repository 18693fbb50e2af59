import AardvarkWms.Json
import AardvarkWms.Messaging
import AardvarkWms.Separators

/-! The console's reader of a realtime stream: `src/frontend/src/core/api/realtime.ts`. -/
namespace AardvarkWms.EventStream

open Messaging (Str trim isWhiteSpace)

structure WarehouseRealtimeEvent where
  id : Option Str
  type : Str
  data : Json

/-- What has been read of a block. -/
structure Fields where
  id : Option Str := none
  type : Str := "message".toList
  dataLines : List Str := []

def readLine (x : Fields) (line : Str) : Fields :=
  if "id:".toList.isPrefixOf line then {x with id := some (trim (line.drop 3))}
  else if "event:".toList.isPrefixOf line then
    {x with type := if trim (line.drop 6)=[] then x.type else trim (line.drop 6)}
  else if "data:".toList.isPrefixOf line then
    {x with dataLines := x.dataLines++[(line.drop 5).dropWhile isWhiteSpace]}
  else x

/-- `parse` is `JSON.parse`; a text that is not JSON is the data itself. -/
def parseEventBlock (parse : Str → Option Json) (block : Str) : Option WarehouseRealtimeEvent :=
  let x := (block.splitOn '\n').foldl readLine {}
  if x.dataLines=[] then none
  else
    let text := Separators.join '\n' x.dataLines
    some ⟨x.id,x.type,(parse text).getD (.string (String.ofList text))⟩

/-- `.replace(/\r\n/g, '\n')` -/
def unixLines : Str → Str
  | '\r':: '\n'::s => '\n'::unixLines s
  | c::s => c::unixLines s
  | [] => []

/-- What stands before the first empty line, and what behind it. -/
def cutBlock : Str → Option (Str×Str)
  | '\n':: '\n'::s => some ([],s)
  | c::s => (cutBlock s).map fun x => (c::x.1,x.2)
  | [] => none

theorem cutBlock_shorter : ∀ {s : Str} {x : Str×Str}, cutBlock s=some x → x.2.length < s.length := by
  intro s
  fun_induction cutBlock s with
  | case1 s =>
    rintro _ ⟨⟩
    exact Nat.lt_succ_of_lt (Nat.lt_succ_self _)
  | case2 c s hne ih =>
    intro x hx
    obtain ⟨y,hy,rfl⟩ := Option.map_eq_some_iff.mp hx
    exact Nat.lt_succ_of_lt (@ih y hy)
  | case3 => nofun

/-- The inner loop: the blocks that are complete, and what is left. -/
def takeBlocks (buffer : Str) : List Str×Str :=
  match _h : cutBlock buffer with
  | none => ([],buffer)
  | some x => (x.1::(takeBlocks x.2).1,(takeBlocks x.2).2)
termination_by buffer.length
decreasing_by all_goals exact cutBlock_shorter ‹_›

structure Reader where
  buffer : Str
  events : List WarehouseRealtimeEvent

variable (parse : Str → Option Json)

def readChunk (s : Reader) (chunk : Str) : Reader :=
  let blocks := takeBlocks (s.buffer++unixLines chunk)
  ⟨blocks.2,s.events++blocks.1.filterMap (parseEventBlock parse)⟩

/-- The chunks are what the decoder makes of the bytes. -/
def consumeEventStream (chunks : List Str) : Reader := chunks.foldl (readChunk parse) ⟨[],[]⟩

/-- The events of a text as a whole. -/
def eventsOf (text : Str) : Reader :=
  ⟨(takeBlocks text).2,(takeBlocks text).1.filterMap (parseEventBlock parse)⟩

/-- A line break of two characters is cut, and is not found any more. -/
def Cut (s t : Str) : Prop := s.getLast?=some '\r' ∧ t.head?=some '\n'

/-- No chunk ends within a line break of two characters. -/
def Whole : List Str → Prop
  | [] => True
  | c::cs => ¬Cut c cs.flatten ∧ Whole cs

theorem cutBlock_append {s : Str} (t : Str) : ∀ {x : Str×Str}, cutBlock s=some x →
    cutBlock (s++t)=some (x.1,x.2++t) := by
  fun_induction cutBlock s with
  | case1 s =>
    rintro _ ⟨⟩
    rfl
  | case2 c s hne ih =>
    intro x hx
    obtain ⟨y,hy,rfl⟩ := Option.map_eq_some_iff.mp hx
    have hne' : ∀ s', c= '\n' → s++t= '\n'::s' → False := by
      intro s' hc hs'
      cases s with
      | nil => cases hy
      | cons d s => exact hne s hc (by rw [(List.cons.inj hs').1])
    rw [List.cons_append,cutBlock.eq_2 _ _ hne',@ih y hy]
    rfl
  | case3 => nofun

theorem takeBlocks_none {s : Str} (h : cutBlock s=none) : takeBlocks s=([],s) := by
  rw [takeBlocks]
  split
  · rfl
  · rename_i hsome
    rw [h] at hsome
    cases hsome

theorem takeBlocks_some {s : Str} {x : Str×Str} (h : cutBlock s=some x) :
    takeBlocks s=(x.1::(takeBlocks x.2).1,(takeBlocks x.2).2) := by
  rw [takeBlocks]
  split
  · rename_i hnone
    rw [h] at hnone
    cases hnone
  · rename_i hsome
    cases h.symm.trans hsome
    rfl

/-- Blocks that are complete are taken whatever comes behind them. -/
theorem takeBlocks_append (s t : Str) : takeBlocks (s++t)=
    ((takeBlocks s).1++(takeBlocks ((takeBlocks s).2++t)).1,
      (takeBlocks ((takeBlocks s).2++t)).2) := by
  fun_induction takeBlocks s with
  | case1 s h => rfl
  | case2 s x h ih => rw [takeBlocks_some (cutBlock_append t h),ih,List.cons_append]

theorem takeBlocks_blocks (blocks : List Str)
    (h : ∀ b∈blocks, cutBlock (b++['\n','\n'])=some (b,[])) :
    takeBlocks (blocks.map (·++['\n','\n'])).flatten=(blocks,[]) := by
  induction blocks with
  | nil => exact takeBlocks_none rfl
  | cons b bs ih =>
    rw [List.map_cons,List.flatten_cons,
      takeBlocks_some (cutBlock_append _ (h b (List.mem_cons_self ..))),List.nil_append,
      ih fun b hb => h b (List.mem_cons_of_mem _ hb)]

theorem readChunk_eventsOf (text chunk : Str) :
    readChunk parse (eventsOf parse text) chunk=eventsOf parse (text++unixLines chunk) := by
  simp only [readChunk,eventsOf,takeBlocks_append text,List.filterMap_append]

/-- The text so far decides, not where the chunks end. -/
theorem consumeEventStream_eq (chunks : List Str) :
    consumeEventStream parse chunks=eventsOf parse (chunks.map unixLines).flatten := by
  have hstart : (⟨[],[]⟩ : Reader)=eventsOf parse [] := by
    rw [eventsOf,takeBlocks_none rfl]
    rfl
  have hfold : ∀ text, chunks.foldl (readChunk parse) (eventsOf parse text)=
      eventsOf parse (text++(chunks.map unixLines).flatten) := by
    induction chunks with
    | nil => simp
    | cons c cs ih =>
      intro text
      rw [List.foldl_cons,readChunk_eventsOf,ih,List.map_cons,List.flatten_cons,List.append_assoc]
  rw [consumeEventStream,hstart,hfold,List.nil_append]

theorem cut_behind (c d : Char) (s t : Str) (hd : d≠ '\r') : Cut (c::d::s) t ↔ Cut s t := by
  cases s with
  | nil => simp [Cut,hd]
  | cons e s => simp [Cut,List.getLast?_cons_cons]

theorem unixLines_append (s t : Str) :
    ¬Cut s t ∧ unixLines (s++t)=unixLines s++unixLines t ∨
      Cut s t ∧ (unixLines (s++t)).length < (unixLines s).length+(unixLines t).length := by
  fun_induction unixLines s with
  | case1 s ih =>
    rw [cut_behind _ _ _ _ (by decide)]
    simp only [List.cons_append,unixLines,List.length_cons,List.cons.injEq,true_and]
    exact ih.imp_right fun h => ⟨h.1,by omega⟩
  | case2 c s hne ih =>
    cases s with
    | nil =>
      by_cases hcut : c= '\r' ∧ ∃ t', t= '\n'::t'
      · obtain ⟨rfl,t',rfl⟩ := hcut
        simp [Cut,unixLines]
      · left
        rw [List.singleton_append,unixLines.eq_2 c t fun t' hc ht => hcut ⟨hc,t',ht⟩]
        refine ⟨?_,rfl⟩
        rintro ⟨hc,ht⟩
        exact hcut ⟨Option.some.inj hc,List.head?_eq_some_iff.mp ht⟩
    | cons d s =>
      have hne' : ∀ s', c= '\r' → d::s++t= '\n'::s' → False := by
        intro s' hc hs'
        exact hne s hc (by rw [(List.cons.inj hs').1])
      have hcut : Cut (c::d::s) t ↔ Cut (d::s) t := by
        rw [Cut,Cut,List.getLast?_cons_cons]
      rw [List.cons_append,unixLines.eq_2 c _ hne',hcut]
      simp only [List.length_cons,List.cons_append,List.cons.injEq,true_and] at ih ⊢
      exact ih.imp_right fun h => ⟨h.1,by omega⟩
  | case3 => simp [Cut]

theorem flatten_unixLines (chunks : List Str) :
    Whole chunks ∧ (chunks.map unixLines).flatten=unixLines chunks.flatten ∨
      ¬Whole chunks ∧
        (unixLines chunks.flatten).length < (chunks.map unixLines).flatten.length := by
  induction chunks with
  | nil => simp [Whole,unixLines]
  | cons c cs ih =>
    simp only [List.map_cons,List.flatten_cons,List.length_append,Whole]
    rcases unixLines_append c cs.flatten with ⟨hcut,happend⟩ | ⟨hcut,hless⟩
    · rw [happend,List.length_append]
      exact ih.imp (fun h => ⟨⟨hcut,h.1⟩,by rw [h.2]⟩) fun h => ⟨fun hw => h.1 hw.2,by omega⟩
    · refine .inr ⟨fun hw => hw.1 hcut,?_⟩
      rcases ih with ⟨_,heq⟩ | ⟨_,hmore⟩
      · rw [heq]
        exact hless
      · omega

/-- However the stream is cut, the events are those of the text with its line breaks made one
character, which is the text as a whole just where no cut is within one; and of blocks in which no
line is empty each is read once, in their order. -/
theorem consume_chunks (chunks : List Str) :
    consumeEventStream parse chunks=eventsOf parse (chunks.map unixLines).flatten ∧
      ((chunks.map unixLines).flatten=unixLines chunks.flatten ↔ Whole chunks) ∧
      ∀ blocks : List Str, (∀ b∈blocks, cutBlock (b++['\n','\n'])=some (b,[])) →
        (chunks.map unixLines).flatten=(blocks.map (·++['\n','\n'])).flatten →
        consumeEventStream parse chunks=⟨[],blocks.filterMap (parseEventBlock parse)⟩ := by
  refine ⟨consumeEventStream_eq parse chunks,?_,?_⟩
  · rcases flatten_unixLines chunks with ⟨hwhole,heq⟩ | ⟨hcut,hless⟩
    · exact ⟨fun _ => hwhole,fun _ => heq⟩
    · exact ⟨fun heq => absurd (heq ▸ hless) (lt_irrefl _),fun hwhole => absurd hwhole hcut⟩
  · intro blocks hblocks htext
    rw [consumeEventStream_eq,htext,eventsOf,takeBlocks_blocks blocks hblocks]

end AardvarkWms.EventStream
