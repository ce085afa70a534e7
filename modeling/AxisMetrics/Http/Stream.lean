import AxisMetrics.Api.Documents
import AxisMetrics.Lib.Runs

/-!
# The event stream

The sockets of the event stream are non-blocking, so a write may accept a part of a frame.
`sse_broadcast` takes that for a success and goes on with the next frame, which then runs into
the part. A stream is made of whole frames as long as each write takes all of a frame or nothing
(`wholeFrames_of_throughout`).
-/

namespace AxisMetrics

open Lib (Bytes ascii Always Throughout)

/-- A full buffer looks the same as a slow client, so a dead reader is dropped. -/
def SSE_MAX_STALLED : ℕ := 30

/-- `SseClient`, with what its connection has carried and what it was offered. -/
structure SseClient where
  /-- The bytes after the response headers. -/
  received : Bytes
  /-- The frames broadcast since the client was added. -/
  offered : List Bytes
  stalled : ℕ

/-- What a non-blocking socket does with a write. -/
inductive SocketWrite where
  /-- It accepts the first bytes, at most this many. -/
  | accepted (count : ℕ)
  | wouldBlock
  | failed

/-- `sse_add`; `written` says whether the response headers could be written. -/
def sseAdd (clients : List SseClient) (written : Bool) : List SseClient :=
  if written then ⟨[], [], 0⟩ :: clients else clients

/-- The frame of a JSON document. -/
def sseFrame (json : Bytes) : Bytes := ascii "data: " ++ json ++ ascii "\n\n"

/-- The turn of a client in `sse_broadcast`; `none` when it is dropped. -/
def sseWrite (client : SseClient) (frame : Bytes) : SocketWrite → Option SseClient
  | .accepted count =>
    if (frame.take count).length > 0 then
      some { client with
        stalled := 0
        received := client.received ++ frame.take count
        offered := client.offered ++ [frame] }
    else none
  | .wouldBlock =>
    if client.stalled + 1 ≥ SSE_MAX_STALLED then none
    else some { client with
      stalled := client.stalled + 1
      offered := client.offered ++ [frame] }
  | .failed => none

/-- `sse_broadcast`; `writes` gives the result of the write to each client. -/
def sseBroadcast (clients : List SseClient) (json : Bytes) (writes : ℕ → SocketWrite) :
    List SseClient :=
  clients.zipIdx.filterMap fun (client, i) => sseWrite client (sseFrame json) (writes i)

inductive StreamEvent where
  | add (written : Bool)
  | broadcast (json : Bytes) (writes : ℕ → SocketWrite)

/-- One event of the stream. -/
def streamStep (clients : List SseClient) : StreamEvent → Option (List SseClient)
  | .add written => some (sseAdd clients written)
  | .broadcast json writes => some (sseBroadcast clients json writes)

/-- A client has received whole frames, in order and perhaps with gaps. -/
def SseClient.WholeFrames (client : SseClient) : Prop :=
  ∃ frames : List Bytes, frames.Sublist client.offered ∧ client.received = frames.flatten

/-- Every write takes the whole frame or nothing. -/
def WritesWhole (clients : List SseClient) : StreamEvent → Prop
  | .add _ => True
  | .broadcast json writes => ∀ i < clients.length, ∀ count, writes i = .accepted count →
      0 < count → (sseFrame json).length ≤ count

variable {client client' : SseClient} {clients clients' : List SseClient} {frame : Bytes}

/-- A write that takes all or nothing keeps the frames whole. -/
theorem SseClient.WholeFrames.write (h : client.WholeFrames) {result : SocketWrite}
    (hwhole : ∀ count, result = .accepted count → 0 < count → frame.length ≤ count)
    (hwrite : sseWrite client frame result = some client') : client'.WholeFrames := by
  obtain ⟨frames, hsub, hreceived⟩ := h
  cases result with
  | accepted count =>
    simp only [sseWrite] at hwrite
    split_ifs at hwrite with htaken
    obtain rfl := Option.some.inj hwrite
    have hcount : 0 < count := by
      rw [List.length_take] at htaken
      omega
    refine ⟨frames ++ [frame], hsub.append (List.Sublist.refl _), ?_⟩
    simp [hreceived, List.take_of_length_le (hwhole count rfl hcount)]
  | wouldBlock =>
    simp only [sseWrite] at hwrite
    split_ifs at hwrite
    obtain rfl := Option.some.inj hwrite
    exact ⟨frames, hsub.trans (List.sublist_append_left _ _), hreceived⟩
  | failed => cases hwrite

/-- A client after a broadcast is one from before it, with its frame written. -/
theorem mem_sseBroadcast {json : Bytes} {writes : ℕ → SocketWrite}
    (h : client' ∈ sseBroadcast clients json writes) :
    ∃ i < clients.length, ∃ client ∈ clients,
      sseWrite client (sseFrame json) (writes i) = some client' := by
  obtain ⟨⟨client, i⟩, hmem, hwrite⟩ := List.mem_filterMap.mp h
  obtain ⟨hi, hclient⟩ := List.mk_mem_zipIdx_iff_getElem?.mp hmem |> List.getElem?_eq_some_iff.mp
  exact ⟨i, hi, client, hclient ▸ List.getElem_mem hi, hwrite⟩

theorem wholeFrames_step (h : ∀ client ∈ clients, client.WholeFrames) {event : StreamEvent}
    (hwhole : WritesWhole clients event) (hstep : streamStep clients event = some clients') :
    ∀ client ∈ clients', client.WholeFrames := by
  cases event with
  | add written =>
    obtain rfl := Option.some.inj hstep
    intro client hmem
    rw [sseAdd] at hmem
    split at hmem
    · rcases List.mem_cons.mp hmem with rfl | hold
      · exact ⟨[], List.Sublist.refl _, rfl⟩
      · exact h client hold
    · exact h client hmem
  | broadcast json writes =>
    obtain rfl := Option.some.inj hstep
    intro client' hmem
    obtain ⟨i, hi, client, hclient, hwrite⟩ := mem_sseBroadcast hmem
    exact (h client hclient).write (hwhole i hi) hwrite

/-- In a run whose writes each take the whole frame or nothing, every client receives whole frames
at all times. -/
theorem wholeFrames_of_throughout (run : List StreamEvent)
    (hrun : Throughout streamStep [] run WritesWhole) :
    Always streamStep [] run fun clients => ∀ client ∈ clients, client.WholeFrames :=
  Lib.always_of_step (by simp)
    (fun _ _ _ hwhole hallowed hstep => wholeFrames_step hwhole hallowed hstep) hrun

/-- A camera that has just sampled its CPU. -/
def sampledApi (now : Int64) (usage : ℤ) : Api (Option ℤ) ℤ where
  registry := .registerAll [ascii "cpu.usage"]
  store := (storePush (storeNew _ 1 0) ⟨now, fun _ => some usage⟩).1
  selection := ⟨fun _ => []⟩
  device := ⟨⟨ascii "Q6135", ascii "B8A44F012345", [], by decide⟩, [], [], [], [], []⟩
  appVersion := ascii "0.1.2"
  persistPath := none
  mqttStatus := ascii "disabled"
  influxStatus := ascii "disabled"
  started := 0

/-- The two frames it sends. -/
def firstFrame : Bytes :=
  ascii "data: \x7b\"timestamp\":1000,\"values\":\x7b\"cpu.usage\":7\x7d\x7d\n\n"

def secondFrame : Bytes :=
  ascii "data: \x7b\"timestamp\":1001,\"values\":\x7b\"cpu.usage\":9\x7d\x7d\n\n"

theorem sseFrame_sampledApi : sseFrame (apiCurrentJson (sampledApi 1000 7)) = firstFrame ∧
    sseFrame (apiCurrentJson (sampledApi 1001 9)) = secondFrame := by
  decide +kernel

/-- A client that takes one frame and has no room for the next. -/
def slowClient : List StreamEvent :=
  [.add true, .broadcast (apiCurrentJson (sampledApi 1000 7)) fun _ => .accepted 51,
    .broadcast (apiCurrentJson (sampledApi 1001 9)) fun _ => .wouldBlock]

theorem wholeFrames_slowClient :
    Always streamStep [] slowClient fun clients => ∀ client ∈ clients, client.WholeFrames := by
  refine wholeFrames_of_throughout slowClient (Lib.throughout_cons.mpr ⟨trivial, ?_⟩)
  rintro _ ⟨⟩
  refine Lib.throughout_cons.mpr ⟨fun i _ count hcount _ => ?_, ?_⟩
  · obtain rfl := SocketWrite.accepted.inj hcount
    rw [sseFrame_sampledApi.1]
    decide
  rintro _ ⟨⟩
  refine Lib.throughout_cons.mpr ⟨fun i _ count hcount _ => SocketWrite.noConfusion hcount, ?_⟩
  rintro _ ⟨⟩
  exact Lib.throughout_nil

/-- A client whose buffer takes twenty bytes of a frame, and then a whole one. -/
theorem not_wholeFrames_shortWrite :
    ¬ Always streamStep [] [.add true,
        .broadcast (apiCurrentJson (sampledApi 1000 7)) fun _ => .accepted 20,
        .broadcast (apiCurrentJson (sampledApi 1001 9)) fun _ => .accepted 51]
      fun clients => ∀ client ∈ clients, client.WholeFrames := by
  intro halways
  have hrun : Lib.runFrom streamStep [] [.add true,
      .broadcast (apiCurrentJson (sampledApi 1000 7)) fun _ => .accepted 20,
      .broadcast (apiCurrentJson (sampledApi 1001 9)) fun _ => .accepted 51] =
        some [⟨ascii "data: \x7b\"timestamp\":1" ++ secondFrame, [firstFrame, secondFrame], 0⟩] := by
    simp only [Lib.runFrom, streamStep, sseBroadcast, sseAdd, sseFrame_sampledApi]
    rfl
  obtain ⟨frames, hsub, hreceived⟩ := halways _ _ List.prefix_rfl hrun _ List.mem_cons_self
  -- whole frames are 51 bytes each, and there are 71
  have hframe : ∀ frame ∈ frames, frame.length = 51 := by
    intro frame hmem
    have hoffered := hsub.subset hmem
    simp only [List.mem_cons, List.not_mem_nil, or_false] at hoffered
    rcases hoffered with rfl | rfl <;> rfl
  have hlength := congrArg List.length hreceived
  rw [List.length_flatten, List.map_congr_left hframe, List.map_const', List.sum_replicate_nat,
    show (ascii "data: \x7b\"timestamp\":1" ++ secondFrame).length = 71 from rfl] at hlength
  omega

end AxisMetrics
