import AxisMetrics.Lib.CText

/-!
# Event streams

A reader of `text/event-stream` as browsers have it: a line ends with a line feed, a carriage return or
both, the data fields are gathered, and an empty line dispatches what was gathered. It reads no names,
ids and retry times of events. What is sent as one data line each comes out as it went in.
-/

namespace Lib

/-- Line ends as line feeds. -/
def lineFeeds : Bytes → Bytes
  | [] => []
  | 13 :: 10 :: rest => 10 :: lineFeeds rest
  | b :: rest => (if b = 13 then 10 else b) :: lineFeeds rest

/-- A reader in the middle of a stream: the line that has not ended, the data gathered for the next
event, and the events before it. -/
structure EventReader where
  line : Bytes
  data : Bytes
  events : List Bytes

namespace EventReader

/-- The name and value of a field; one space behind the colon does not count. -/
def field (line : Bytes) : Bytes × Bytes :=
  let value := (line.dropWhile (· ≠ 58)).tail
  (line.takeWhile (· ≠ 58), if value.head? = some 32 then value.tail else value)

/-- The line ends. -/
def endLine (reader : EventReader) : EventReader :=
  if reader.line = [] then
    if reader.data = [] then reader
    else ⟨[], [], reader.events ++ [reader.data.dropLast]⟩
  else if (field reader.line).1 = ascii "data" then
    ⟨[], reader.data ++ (field reader.line).2 ++ [10], reader.events⟩
  else { reader with line := [] }

/-- One byte of the stream. -/
def byte (reader : EventReader) (b : UInt8) : EventReader :=
  if b = 10 then reader.endLine else { reader with line := reader.line ++ [b] }

end EventReader

/-- The data of the events of a stream. What stands behind the last empty line is not dispatched. -/
def eventData (stream : Bytes) : List Bytes :=
  ((lineFeeds stream).foldl EventReader.byte ⟨[], [], []⟩).events

/-- An event of one data line. -/
def dataFrame (data : Bytes) : Bytes := ascii "data: " ++ data ++ ascii "\n\n"

theorem lineFeeds_of_notMem {stream : Bytes} (h : 13 ∉ stream) : lineFeeds stream = stream := by
  induction stream using lineFeeds.induct with
  | case1 => rfl
  | case2 rest ih => exact absurd List.mem_cons_self h
  | case3 b rest hcrlf ih =>
    obtain ⟨hb, hrest⟩ := not_or.mp (mt List.mem_cons.mpr h)
    rw [lineFeeds, ih hrest, if_neg (Ne.symm hb)]
    exact hcrlf

namespace EventReader

theorem foldl_line (reader : EventReader) {text : Bytes} (h : 10 ∉ text) :
    text.foldl byte reader = { reader with line := reader.line ++ text } := by
  induction text generalizing reader with
  | nil => rw [List.foldl_nil, List.append_nil]
  | cons b text ih =>
    obtain ⟨hb, htext⟩ := not_or.mp (mt List.mem_cons.mpr h)
    rw [List.foldl_cons, byte, if_neg (Ne.symm hb), ih _ htext, List.append_assoc,
      List.singleton_append]

theorem byte_lineFeed (reader : EventReader) : reader.byte 10 = reader.endLine := if_pos rfl

theorem field_data (data : Bytes) : field (ascii "data: " ++ data) = (ascii "data", data) := by
  rw [field]
  rfl

/-- A frame is one event. -/
theorem foldl_dataFrame (events : List Bytes) {data : Bytes} (h : 10 ∉ data) :
    (dataFrame data).foldl byte ⟨[], [], events⟩ = ⟨[], [], events ++ [data]⟩ := by
  have hline : 10 ∉ ascii "data: " ++ data := by
    rw [List.mem_append, not_or]
    exact ⟨by decide, h⟩
  have hends : ascii "\n\n" = [10, 10] := rfl
  have hfirst : endLine ⟨ascii "data: " ++ data, [], events⟩ = ⟨[], data ++ [10], events⟩ := by
    rw [endLine, if_neg (by simp [ascii]), field_data, if_pos rfl]
    rfl
  have hsecond : endLine ⟨[], data ++ [10], events⟩ = ⟨[], [], events ++ [data]⟩ := by
    rw [endLine, if_pos rfl, if_neg (by simp), List.dropLast_concat]
  rw [dataFrame, List.foldl_append, foldl_line _ hline, hends, List.nil_append, List.foldl_cons,
    List.foldl_cons, List.foldl_nil, byte_lineFeed, byte_lineFeed]
  exact (congrArg endLine hfirst).trans hsecond

theorem foldl_dataFrames (events : List Bytes) {datas : List Bytes}
    (h : ∀ data ∈ datas, 10 ∉ data) :
    (datas.flatMap dataFrame).foldl byte ⟨[], [], events⟩ = ⟨[], [], events ++ datas⟩ := by
  induction datas generalizing events with
  | nil => rw [List.flatMap_nil, List.append_nil]; rfl
  | cons data datas ih =>
    obtain ⟨hdata, hdatas⟩ := List.forall_mem_cons.mp h
    rw [List.flatMap_cons, List.foldl_append, foldl_dataFrame _ hdata, ih _ hdatas,
      List.append_assoc, List.singleton_append]

end EventReader

/-- Data without line ends comes out of its frames as it went in. -/
theorem eventData_dataFrames {datas : List Bytes} (h : ∀ data ∈ datas, 10 ∉ data ∧ 13 ∉ data) :
    eventData (datas.flatMap dataFrame) = datas := by
  have hplain : 13 ∉ datas.flatMap dataFrame := by
    intro hmem
    obtain ⟨data, hdata, hframe⟩ := List.mem_flatMap.mp hmem
    rw [dataFrame, List.mem_append, List.mem_append] at hframe
    obtain (hname | hin) | hend := hframe
    · exact absurd hname (by decide)
    · exact (h data hdata).2 hin
    · exact absurd hend (by decide)
  rw [eventData, lineFeeds_of_notMem hplain,
    EventReader.foldl_dataFrames [] fun data hdata => (h data hdata).1, List.nil_append]

/-- A frame that has not arrived as a whole is not dispatched. -/
example : eventData (dataFrame (ascii "1") ++ ascii "data: 2\n") = [ascii "1"] := by decide

end Lib
