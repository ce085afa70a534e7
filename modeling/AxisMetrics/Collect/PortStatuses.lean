import AxisMetrics.Collect.Numbers
import AxisMetrics.Collect.Slots
import AxisMetrics.Lib.Markup

/-!
# Which port a reading is of

`sample_poe` gives the first status of an answer to the first port that was found, and so on, and
looks for each number from the beginning of the status to the end of the answer. The readings are
those of their ports just if the statuses come in the order of the ports and lack nothing that a
later one has.
-/

namespace AxisMetrics

open Lib (Bytes ascii guint strstr strtoull Markup render valueOf leadingText)

/-- A status in an answer: what is in it, and what stands behind it. -/
structure PortStatus where
  inner : List Markup
  gap : List Markup

/-- The answer about the ports. -/
structure PortStatuses where
  preface : List Markup
  statuses : List PortStatus

/-- The fields that are read of a status. -/
def statusFields : List Bytes :=
  [ascii "PowerConsumption", ascii "AllocatedPower", ascii "PoeClass", ascii "StatusCode"]

namespace PortStatus

def pieces (status : PortStatus) : List Markup :=
  .tag (ascii "PortStatus") :: (status.inner ++ .tag (ascii "/PortStatus") :: status.gap)

/-- The port that a status is of. -/
def port (status : PortStatus) : Option ℕ :=
  (valueOf (ascii "Port") status.inner).map fun text => guint (strtoull text)

/-- A status has no status in it, and its fields are not read behind it. -/
structure WellFormed (status : PortStatus) : Prop where
  plain : ∀ piece ∈ status.inner ++ status.gap, piece.Plain
  single : .tag (ascii "PortStatus") ∉ status.inner ++ status.gap
  closed : .tag (ascii "/PortStatus") ∉ status.inner
  inside : ∀ field ∈ statusFields, .tag field ∉ status.gap

instance : DecidablePred WellFormed := fun status =>
  decidable_of_iff ((∀ piece ∈ status.inner ++ status.gap, piece.Plain) ∧
      .tag (ascii "PortStatus") ∉ status.inner ++ status.gap ∧
      .tag (ascii "/PortStatus") ∉ status.inner ∧ ∀ field ∈ statusFields, .tag field ∉ status.gap)
    ⟨fun h => ⟨h.1, h.2.1, h.2.2.1, h.2.2.2⟩, fun h => ⟨h.plain, h.single, h.closed, h.inside⟩⟩

end PortStatus

/-- The number that a field has in a piece of markup, and NaN if it has none. -/
def fieldValue (field : Bytes) (pieces : List Markup) : CNumber :=
  ((valueOf field pieces).map readNumber).getD .nan

/-- The readings of a port that a piece of markup has. -/
def readingOf (pieces : List Markup) : PoeMetric → CNumber
  | .power => fieldValue (ascii "PowerConsumption") pieces
  | .allocated => fieldValue (ascii "AllocatedPower") pieces
  | .poeClass => fieldValue (ascii "PoeClass") pieces
  | .connected =>
    if (CNumber.number 0).less (fieldValue (ascii "StatusCode") pieces) then .number 1 else .number 0

/-- The sum of the powers that are numbers, added in their order. -/
def addedPowers (powers : List CNumber) : CNumber :=
  (powers.filter (· ≠ .nan)).foldl (· + ·) (.number 0)

namespace PortStatuses

/-- The pieces of some statuses. -/
def piecesOf (statuses : List PortStatus) : List Markup := statuses.flatMap PortStatus.pieces

def text (answer : PortStatuses) : Bytes := render (answer.preface ++ piecesOf answer.statuses)

/-- Well-formed statuses, of ports of their own. -/
structure WellFormed (answer : PortStatuses) : Prop where
  preface : ∀ piece ∈ answer.preface, piece.Plain ∧ piece ≠ .tag (ascii "PortStatus")
  statuses : ∀ status ∈ answer.statuses, status.WellFormed
  ports : (answer.statuses.map PortStatus.port).Nodup

instance : DecidablePred WellFormed := fun answer =>
  decidable_of_iff ((∀ piece ∈ answer.preface, piece.Plain ∧ piece ≠ .tag (ascii "PortStatus")) ∧
      (∀ status ∈ answer.statuses, status.WellFormed) ∧
      (answer.statuses.map PortStatus.port).Nodup)
    ⟨fun h => ⟨h.1, h.2.1, h.2.2⟩, fun h => ⟨h.preface, h.statuses, h.ports⟩⟩

end PortStatuses

/-- The sum of the powers of some statuses, as it is stored. -/
def storedTotal (statuses : List PortStatus) : CNumber :=
  Narrows.toFloat (addedPowers (statuses.map fun status => readingOf status.inner .power))

/-- Each reading of a port is set from the status of the port, and the total is that of the powers
in the answer. -/
structure PoeOwn (c : CollectorSlots) (answer : PortStatuses) (writes : List (Write CNumber)) :
    Prop where
  readings : ∀ w ∈ writes, ∀ port q, w.source = .poe port q → ∃ entry ∈ c.poe,
    ∃ status ∈ answer.statuses, port = some entry.port ∧ w.idx = entry.idx q ∧
      status.port = some entry.port ∧ w.value = Narrows.toFloat (readingOf status.inner q)
  total : ∀ w ∈ writes, w.source = .fixed .poeTotal → w.value = storedTotal answer.statuses

/-- The statuses from each one on. -/
def onwards : List PortStatus → List (List PortStatus)
  | [] => []
  | status :: statuses => (status :: statuses) :: onwards statuses

/-- The first of some statuses is of the port. If it lacks a field, the first one behind it that has
the field says `nan` there, or has the code of a port that is not connected. -/
def ReadsPort (port : ℕ) : List PortStatus → Prop
  | [] => True
  | status :: later => status.port = some port ∧
    (∀ field ∈ [ascii "PowerConsumption", ascii "AllocatedPower", ascii "PoeClass"],
      valueOf field status.inner = none →
        ∀ text ∈ later.findSome? fun status' => valueOf field status'.inner,
          (Lib.strtod text).isNan = true) ∧
    (valueOf (ascii "StatusCode") status.inner = none →
      ∀ text ∈ later.findSome? fun status' => valueOf (ascii "StatusCode") status'.inner,
        (CNumber.number 0).less (readNumber text) = false)

instance (port : ℕ) : DecidablePred (ReadsPort port)
  | [] => inferInstanceAs (Decidable True)
  | _ :: _ => inferInstanceAs (Decidable (_ ∧ _ ∧ _))

/-- The statuses are those of the ports in their order, what each lacks no later one gives a number
for, and those behind the last port add nothing to the powers of the others. -/
structure InPortOrder (ports : List ℕ) (statuses : List PortStatus) : Prop where
  reads : ∀ entry ∈ ports.zip (onwards statuses), ReadsPort entry.1 entry.2
  rest : storedTotal (statuses.take ports.length) = storedTotal statuses

instance (ports : List ℕ) (statuses : List PortStatus) : Decidable (InPortOrder ports statuses) :=
  decidable_of_iff ((∀ entry ∈ ports.zip (onwards statuses), ReadsPort entry.1 entry.2) ∧
      storedTotal (statuses.take ports.length) = storedTotal statuses)
    ⟨fun h => ⟨h.1, h.2⟩, fun h => ⟨h.1, h.2⟩⟩

-- ════════════════════════════════════════════════════════════════════════
-- Fields in markup
-- ════════════════════════════════════════════════════════════════════════

section Fields

variable {pieces pre post : List Markup} {field : Bytes}

theorem openTag_eq (field : Bytes) :
    ascii "<" ++ field ++ ascii ">" = Markup.render (.tag field) := rfl

theorem drop_render_tag (pre post : List Markup) (field : Bytes) :
    (render (pre ++ .tag field :: post)).drop (render pre).length = render (.tag field :: post) := by
  rw [Lib.render_append]
  exact List.drop_left

theorem length_openTag (field : Bytes) : (Markup.render (.tag field)).length = field.length + 2 := by
  rw [Markup.render, List.length_cons, List.length_append]
  rfl

/-- What stands behind the first tag of a name. -/
theorem drop_render (pre post : List Markup) (field : Bytes) :
    (render (pre ++ .tag field :: post)).drop ((render pre).length + field.length + 2) =
      render post := by
  rw [Lib.render_append, Lib.render_cons, ← List.append_assoc, Nat.add_assoc, ← length_openTag,
    ← List.length_append]
  exact List.drop_left

/-- `xml_value` finds the first field of the name in all the markup that it is given. -/
theorem xmlValue_render (hplain : ∀ piece ∈ pieces, piece.Plain) (hfield : 62 ∉ field) :
    CollectorSlots.xmlValue (render pieces) field = fieldValue field pieces := by
  rw [CollectorSlots.xmlValue, openTag_eq, fieldValue]
  cases hvalue : valueOf field pieces with
  | none =>
    rw [Lib.strstr_render_eq_none hfield hplain (Lib.valueOf_eq_none.mp hvalue)]
    rfl
  | some value =>
    obtain ⟨pre, post, rfl, hfirst, rfl⟩ := Lib.exists_of_valueOf hvalue
    have hpre : ∀ piece ∈ pre, piece.Plain :=
      fun piece hpiece => hplain piece (List.mem_append_left _ hpiece)
    obtain ⟨behind, hbehind, hhead⟩ := Lib.render_eq_leadingText post
    rw [Lib.strstr_render _ _ hfield hpre hfirst]
    dsimp only
    rw [drop_render, hbehind]
    exact readNumber_congr (strtod_tag hhead)

/-- What `sample_poe` reads in markup. -/
theorem poeValue_render (hplain : ∀ piece ∈ pieces, piece.Plain) (q : PoeMetric) :
    CollectorSlots.poeValue (render pieces) q = readingOf pieces q := by
  cases q with
  | power => exact xmlValue_render hplain (by decide)
  | allocated => exact xmlValue_render hplain (by decide)
  | poeClass => exact xmlValue_render hplain (by decide)
  | connected =>
    rw [CollectorSlots.poeValue, xmlValue_render hplain (by decide), readingOf, natCast_zero,
      natCast_one]
    rfl

end Fields

-- ════════════════════════════════════════════════════════════════════════
-- The statuses of an answer
-- ════════════════════════════════════════════════════════════════════════

open PortStatuses (piecesOf)

variable {statuses : List PortStatus} {status : PortStatus}

theorem piecesOf_cons (status : PortStatus) (statuses : List PortStatus) :
    piecesOf (status :: statuses) = status.pieces ++ piecesOf statuses := List.flatMap_cons

theorem PortStatus.WellFormed.plain_pieces (h : status.WellFormed) :
    ∀ piece ∈ status.pieces, piece.Plain := by
  intro piece hpiece
  rcases List.mem_cons.mp hpiece with rfl | hpiece
  · decide
  · rcases List.mem_append.mp hpiece with hinner | hbehind
    · exact h.plain piece (List.mem_append_left _ hinner)
    · rcases List.mem_cons.mp hbehind with rfl | hgap
      · decide
      · exact h.plain piece (List.mem_append_right _ hgap)

theorem plain_piecesOf (h : ∀ status ∈ statuses, status.WellFormed) :
    ∀ piece ∈ piecesOf statuses, piece.Plain := by
  intro piece hpiece
  obtain ⟨status, hstatus, hpiece⟩ := List.mem_flatMap.mp hpiece
  exact (h status hstatus).plain_pieces piece hpiece

/-- A field is found in the first status that has it. -/
theorem valueOf_piecesOf {field : Bytes} (hfield : field ∈ statusFields)
    (h : ∀ status ∈ statuses, status.WellFormed) :
    valueOf field (piecesOf statuses) =
      statuses.findSome? fun status => valueOf field status.inner := by
  have hapart : ∀ name ∈ [ascii "PortStatus", ascii "/PortStatus"], name ∉ statusFields := by
    decide
  have hother : ∀ name ∈ [ascii "PortStatus", ascii "/PortStatus"],
      Markup.tag name ≠ .tag field := fun name hname heq =>
    hapart name hname (Markup.tag.inj heq ▸ hfield)
  induction statuses with
  | nil => rfl
  | cons status statuses ih =>
    obtain ⟨hstatus, hstatuses⟩ := List.forall_mem_cons.mp h
    rw [piecesOf_cons, PortStatus.pieces, List.cons_append, Lib.valueOf_cons,
      if_neg (hother _ (by simp)), List.append_assoc, List.cons_append, Lib.valueOf_append_tag,
      Lib.valueOf_cons, if_neg (hother _ (by simp)),
      Lib.valueOf_of_notMem (hstatus.inside field hfield), ih hstatuses, List.findSome?_cons]
    cases valueOf field status.inner <;> rfl

/-- The end of the first status. -/
theorem piecesOf_split (status : PortStatus) (later : List PortStatus) :
    piecesOf (status :: later) = (.tag (ascii "PortStatus") :: status.inner) ++
      .tag (ascii "/PortStatus") :: (status.gap ++ piecesOf later) := by
  rw [piecesOf_cons, PortStatus.pieces, List.cons_append, List.cons_append, List.append_assoc,
    List.cons_append]

theorem PortStatus.WellFormed.plain_opening (h : status.WellFormed) :
    ∀ piece ∈ .tag (ascii "PortStatus") :: status.inner, piece.Plain :=
  fun piece hpiece => h.plain_pieces piece
    (List.mem_cons.mpr ((List.mem_cons.mp hpiece).imp id (List.mem_append_left _)))

theorem closeTag_eq : ascii "</PortStatus>" = Markup.render (.tag (ascii "/PortStatus")) := by
  decide

/-- The end of a status is found. -/
theorem strstr_closeTag (h : status.WellFormed) (later : List PortStatus) :
    strstr (ascii "</PortStatus>") (render (piecesOf (status :: later))) =
      some (render (.tag (ascii "PortStatus") :: status.inner)).length := by
  rw [closeTag_eq, piecesOf_split]
  exact Lib.strstr_render _ _ (by decide) h.plain_opening
    (List.not_mem_cons_of_ne_of_not_mem (by decide) h.closed)

/-- The statuses of an answer are found one after the other. -/
theorem statusesFrom_render (n : ℕ) {pre : List Markup}
    (hpre : ∀ piece ∈ pre, piece.Plain ∧ piece ≠ .tag (ascii "PortStatus"))
    (h : ∀ status ∈ statuses, status.WellFormed) :
    CollectorSlots.statusesFrom n (render (pre ++ piecesOf statuses)) =
      ((onwards statuses).take n).map fun statuses => render (piecesOf statuses) := by
  have hopen : ascii "<PortStatus>" = Markup.render (.tag (ascii "PortStatus")) := by decide
  induction n generalizing pre statuses with
  | zero => rfl
  | succ n ih =>
    have hplain : ∀ piece ∈ pre, piece.Plain := fun piece hpiece => (hpre piece hpiece).1
    have hfirst : .tag (ascii "PortStatus") ∉ pre := fun hmem => (hpre _ hmem).2 rfl
    rw [CollectorSlots.statusesFrom, hopen]
    cases statuses with
    | nil =>
      rw [piecesOf, List.flatMap_nil, List.append_nil,
        Lib.strstr_render_eq_none (by decide) hplain hfirst]
      rfl
    | cons status statuses =>
      obtain ⟨hstatus, hstatuses⟩ := List.forall_mem_cons.mp h
      have hfound := Lib.strstr_render (ascii "PortStatus") (status.inner ++
        .tag (ascii "/PortStatus") :: (status.gap ++ piecesOf statuses)) (by decide) hplain
        hfirst
      have hcursor := drop_render_tag pre (status.inner ++
        .tag (ascii "/PortStatus") :: (status.gap ++ piecesOf statuses)) (ascii "PortStatus")
      rw [← List.cons_append, ← piecesOf_split] at hfound hcursor
      rw [hfound]
      dsimp only
      rw [hcursor, strstr_closeTag hstatus]
      dsimp only
      have hnext : (render (piecesOf (status :: statuses))).drop
          ((render (.tag (ascii "PortStatus") :: status.inner)).length + 1) =
            render ((.text (ascii "/PortStatus>") :: status.gap) ++ piecesOf statuses) := by
        rw [piecesOf_split, ← List.drop_drop, drop_render_tag]
        rfl
      rw [hnext, ih ?_ hstatuses]
      · rfl
      · intro piece hpiece
        rcases List.mem_cons.mp hpiece with rfl | hgap
        · decide
        · refine ⟨hstatus.plain piece (List.mem_append_right _ hgap), ?_⟩
          rintro rfl
          exact hstatus.single (List.mem_append_right _ hgap)

/-- The port of a status is read inside it. -/
theorem statusPort_render (h : status.WellFormed) (later : List PortStatus) :
    CollectorSlots.statusPort (render (piecesOf (status :: later))) = status.port := by
  have hopen : ascii "<Port>" = Markup.render (.tag (ascii "Port")) := by decide
  have htake : (render (piecesOf (status :: later))).take
      (render (.tag (ascii "PortStatus") :: status.inner)).length =
        render (.tag (ascii "PortStatus") :: status.inner) := by
    rw [piecesOf_split, Lib.render_append]
    exact List.take_left
  rw [CollectorSlots.statusPort, strstr_closeTag h]
  dsimp only
  rw [htake, hopen, PortStatus.port]
  have hport : valueOf (ascii "Port") (.tag (ascii "PortStatus") :: status.inner) =
      valueOf (ascii "Port") status.inner := by
    rw [Lib.valueOf_cons, if_neg (by decide)]
  rw [← hport]
  cases hvalue : valueOf (ascii "Port") (.tag (ascii "PortStatus") :: status.inner) with
  | none =>
    rw [Lib.strstr_render_eq_none (by decide) h.plain_opening
      (Lib.valueOf_eq_none.mp hvalue)]
    rfl
  | some value =>
    obtain ⟨pre, post, hpieces, hfirst, rfl⟩ := Lib.exists_of_valueOf hvalue
    obtain ⟨behind, hbehind, hhead⟩ := Lib.render_eq_leadingText post
    have hbegin := h.plain_opening
    rw [hpieces] at hbegin ⊢
    rw [Lib.strstr_render _ _ (by decide)
      (fun piece hpiece => hbegin piece (List.mem_append_left _ hpiece)) hfirst]
    have hsix : (render pre).length + 6 = (render pre).length + (ascii "Port").length + 2 := rfl
    rw [Option.map_some, Option.map_some, hsix, drop_render, hbehind, strtoull_tag hhead]

theorem exists_of_mem_onwards {l : List PortStatus} (h : l ∈ onwards statuses) :
    ∃ status later, l = status :: later ∧ l <:+ statuses := by
  induction statuses with
  | nil => cases h
  | cons status statuses ih =>
    rcases List.mem_cons.mp h with rfl | h
    · exact ⟨status, statuses, rfl, List.suffix_rfl⟩
    · obtain ⟨status', later, hl, hsuffix⟩ := ih h
      exact ⟨status', later, hl, hsuffix.trans (List.suffix_cons _ _)⟩

theorem take_onwards (n : ℕ) (statuses : List PortStatus) :
    ((onwards statuses).take n).filterMap List.head? = statuses.take n := by
  induction statuses generalizing n with
  | nil => simp [onwards]
  | cons status statuses ih =>
    cases n with
    | zero => rfl
    | succ n => simp [onwards, ih]

-- ════════════════════════════════════════════════════════════════════════
-- The writes
-- ════════════════════════════════════════════════════════════════════════

variable {c : CollectorSlots} {later : Machine} {answer : PortStatuses} {w : Write CNumber}

theorem zip_take_length {A B : Type} (as : List A) (bs : List B) :
    as.zip (bs.take as.length) = as.zip bs := by
  induction as generalizing bs with
  | nil => rfl
  | cons a as ih =>
    cases bs with
    | nil => rfl
    | cons b bs => exact congrArg ((a, b) :: ·) (ih bs)

/-- What `sample_poe` writes: the readings of each port with the statuses from its own one on, and
the total. -/
theorem samplePoe_eq (hpoe : c.poe ≠ []) (hanswer : answer.WellFormed)
    (hbody : later.portStatuses = some answer.text) :
    ∃ budget : List (Write CNumber), (∀ w ∈ budget, w.source = .fixed .poeBudget) ∧
      c.samplePoe later = ((c.poe.zip (onwards answer.statuses)).flatMap fun entry =>
        CollectorSlots.poeFields.map fun q =>
          ⟨.poe (entry.2.head?.bind PortStatus.port) q, entry.1.idx q,
            Narrows.toFloat (readingOf (piecesOf entry.2) q)⟩) ++
        c.setFixed .poeTotal (addedPowers (((onwards answer.statuses).take c.poe.length).map
          fun statuses => readingOf (piecesOf statuses) .power)) :: budget := by
  have hread : ∀ l ∈ onwards answer.statuses, (∀ q,
      CollectorSlots.poeValue (render (piecesOf l)) q = readingOf (piecesOf l) q) ∧
        CollectorSlots.statusPort (render (piecesOf l)) = l.head?.bind PortStatus.port := by
    intro l hl
    obtain ⟨status, rest, rfl, hsuffix⟩ := exists_of_mem_onwards hl
    have hwell : ∀ status' ∈ status :: rest, status'.WellFormed :=
      fun status' hstatus' => hanswer.statuses status' (hsuffix.subset hstatus')
    exact ⟨poeValue_render (plain_piecesOf hwell), statusPort_render (hwell _ List.mem_cons_self) _⟩
  have hstatuses := statusesFrom_render c.poe.length hanswer.preface hanswer.statuses
  rw [CollectorSlots.samplePoe, if_neg hpoe, hbody]
  simp only [PortStatuses.text, hstatuses]
  refine ⟨_, ?_, congrArg₂ (· ++ ·) ?_ (congrArg₂ List.cons (congrArg (c.setFixed _) ?_) rfl)⟩
  · intro w hw
    split at hw
    · cases hw
    · rw [List.mem_singleton.mp hw]
      rfl
  · rw [List.zip_map_right, zip_take_length, List.flatMap_map]
    refine List.flatMap_congr fun entry hentry => ?_
    obtain ⟨hvalue, hport⟩ := hread entry.2 (List.of_mem_zip hentry).2
    refine List.map_congr_left fun q _ => ?_
    dsimp only [Prod.map]
    rw [hvalue, hport]
    rfl
  · rw [List.map_map, natCast_zero, addedPowers]
    have hpowers : ((onwards answer.statuses).take c.poe.length).map
        ((fun cursor => CollectorSlots.poeValue cursor .power) ∘
          fun statuses => render (piecesOf statuses)) =
        ((onwards answer.statuses).take c.poe.length).map fun statuses =>
          readingOf (piecesOf statuses) .power :=
      List.map_congr_left fun l hl => (hread l (List.mem_of_mem_take hl)).1 .power
    rw [hpowers]
    simp only [DoubleArith.isnan, decide_not]

-- ════════════════════════════════════════════════════════════════════════
-- Own readings
-- ════════════════════════════════════════════════════════════════════════

/-- The indices of different ports are different. -/
theorem port_eq_of_idx {found : Machine} {entry entry' : PoePort}
    (hentry : entry ∈ (CollectorSlots.discover found).poe)
    (hentry' : entry' ∈ (CollectorSlots.discover found).poe) {q : PoeMetric}
    (hidx : entry.idx q = entry'.idx q) : entry.port = entry'.port := by
  have hfiled := CollectorSlots.filed_discover found
  have hfound : ∀ entry ∈ (CollectorSlots.discover found).poe, entry.port ∈ found.ports ∧
      (CollectorSlots.discover found).discovery.registry.idAt (entry.idx q) =
        some (q.registration entry.port).id.text := by
    intro entry hentry
    obtain ⟨r, hr, hsource, hid⟩ := hfiled.registered (hfiled.poe entry hentry q)
    cases hr with
    | poe hport q' =>
      obtain ⟨hsame, rfl⟩ := Source.poe.inj hsource
      obtain rfl := Option.some.inj hsame
      exact ⟨hport, hid⟩
    | _ => cases hsource
  obtain ⟨hport, hid⟩ := hfound entry hentry
  obtain ⟨hport', hid'⟩ := hfound entry' hentry'
  rw [hidx, hid'] at hid
  exact (CollectorSlots.poe_eq_of_id hport' hport (Option.some.inj hid)).1.symm

/-- What a field says from a status on is what it says in the status just if the status has the
field, or the first later one that has it says `nan`. -/
theorem fieldValue_eq_iff (field : Bytes) {status : PortStatus} {rest : List PortStatus}
    (hfield : field ∈ statusFields) (hwell : ∀ status' ∈ status :: rest, status'.WellFormed) :
    fieldValue field (piecesOf (status :: rest)) = fieldValue field status.inner ↔
      (valueOf field status.inner = none →
        ∀ text ∈ rest.findSome? fun status' => valueOf field status'.inner,
          (Lib.strtod text).isNan = true) := by
  rw [fieldValue, fieldValue, valueOf_piecesOf hfield hwell, List.findSome?_cons]
  cases hown : valueOf field status.inner with
  | some value => exact iff_of_true rfl nofun
  | none =>
    dsimp only
    cases rest.findSome? fun status' => valueOf field status'.inner with
    | none => exact iff_of_true rfl fun _ => nofun
    | some text =>
      simp only [forall_const, Option.mem_some_iff, forall_eq']
      exact readNumber_eq_nan text

/-- A port is connected as its own status says just if that lacks no code that a later one has for
a connected port. -/
theorem connected_eq_iff {status : PortStatus} {rest : List PortStatus}
    (hwell : ∀ status' ∈ status :: rest, status'.WellFormed) :
    readingOf (piecesOf (status :: rest)) .connected = readingOf status.inner .connected ↔
      (valueOf (ascii "StatusCode") status.inner = none →
        ∀ text ∈ rest.findSome? fun status' => valueOf (ascii "StatusCode") status'.inner,
          (CNumber.number 0).less (readNumber text) = false) := by
  rw [readingOf, readingOf, fieldValue, fieldValue, valueOf_piecesOf (by decide) hwell,
    List.findSome?_cons]
  cases hown : valueOf (ascii "StatusCode") status.inner with
  | some value => exact iff_of_true rfl nofun
  | none =>
    dsimp only
    cases rest.findSome? fun status' => valueOf (ascii "StatusCode") status'.inner with
    | none => exact iff_of_true rfl fun _ => nofun
    | some text =>
      simp only [forall_const, Option.mem_some_iff, forall_eq', Option.map_some, Option.getD_some]
      by_cases hcode : (CNumber.number 0).less (readNumber text) = true
      · rw [if_pos hcode, hcode]
        exact iff_of_false (by decide) Bool.noConfusion
      · rw [if_neg hcode, Bool.eq_false_iff.mpr hcode]
        exact iff_of_true rfl rfl

/-- Where the same is stored, the same was read: what a status lacks is NaN, which nothing else is
rounded to. -/
theorem reading_eq_of_stored {status : PortStatus} {rest : List PortStatus}
    (hwell : ∀ status' ∈ status :: rest, status'.WellFormed) {q : PoeMetric}
    (hstored : (Narrows.toFloat (readingOf (piecesOf (status :: rest)) q) : CNumber) =
      Narrows.toFloat (readingOf status.inner q)) :
    readingOf (piecesOf (status :: rest)) q = readingOf status.inner q := by
  have hfields : ∀ field ∈ statusFields,
      (Narrows.toFloat (fieldValue field (piecesOf (status :: rest))) : CNumber) =
        Narrows.toFloat (fieldValue field status.inner) →
      fieldValue field (piecesOf (status :: rest)) = fieldValue field status.inner := by
    intro field hfield hsame
    cases hown : valueOf field status.inner with
    | some value =>
      rw [fieldValue, fieldValue, valueOf_piecesOf hfield hwell, List.findSome?_cons, hown]
    | none =>
      have hnan : fieldValue field status.inner = .nan := by
        rw [fieldValue, hown]
        rfl
      rw [hnan] at hsame ⊢
      exact toFloat_eq_nan.mp hsame
  cases q with
  | power => exact hfields _ (by decide) hstored
  | allocated => exact hfields _ (by decide) hstored
  | poeClass => exact hfields _ (by decide) hstored
  | connected =>
    have hstate : ∀ connected connected' : Bool,
        (Narrows.toFloat (if connected then .number 1 else .number 0 : CNumber) : CNumber) =
          Narrows.toFloat (if connected' then .number 1 else .number 0 : CNumber) →
        connected = connected' := by
      decide +kernel
    rw [readingOf, readingOf, hstate _ _ hstored]

/-- What is read from a status on is its own just if it lacks nothing that a later one has. -/
theorem reading_eq_iff {status : PortStatus} {rest : List PortStatus}
    (hwell : ∀ status' ∈ status :: rest, status'.WellFormed) (port : ℕ) :
    (status.port = some port ∧
        ∀ q, readingOf (piecesOf (status :: rest)) q = readingOf status.inner q) ↔
      ReadsPort port (status :: rest) := by
  have hpower := fieldValue_eq_iff (ascii "PowerConsumption") (by decide) hwell
  have hallocated := fieldValue_eq_iff (ascii "AllocatedPower") (by decide) hwell
  have hclass := fieldValue_eq_iff (ascii "PoeClass") (by decide) hwell
  refine and_congr_right fun _ => ⟨fun h => ⟨?_, (connected_eq_iff hwell).mp (h .connected)⟩, ?_⟩
  · intro field hfield
    simp only [List.mem_cons, List.not_mem_nil, or_false] at hfield
    rcases hfield with rfl | rfl | rfl
    · exact hpower.mp (h .power)
    · exact hallocated.mp (h .allocated)
    · exact hclass.mp (h .poeClass)
  · rintro ⟨hfields, hcode⟩ q
    cases q with
    | power => exact hpower.mpr (hfields _ (by simp))
    | allocated => exact hallocated.mpr (hfields _ (by simp))
    | poeClass => exact hclass.mpr (hfields _ (by simp))
    | connected => exact (connected_eq_iff hwell).mpr hcode

/-- The writes of a port. -/
theorem mem_samplePoe_of_zip (hpoe : c.poe ≠ []) (hanswer : answer.WellFormed)
    (hbody : later.portStatuses = some answer.text) {entry : PoePort} {status : PortStatus}
    {rest : List PortStatus} (hentry : (entry, status :: rest) ∈ c.poe.zip (onwards answer.statuses))
    (q : PoeMetric) :
    ⟨.poe status.port q, entry.idx q,
      Narrows.toFloat (readingOf (piecesOf (status :: rest)) q)⟩ ∈
      (c.samplePoe later : List (Write CNumber)) := by
  obtain ⟨budget, -, heq⟩ := samplePoe_eq hpoe hanswer hbody
  rw [heq]
  exact List.mem_append_left _ (List.mem_flatMap.mpr ⟨_, hentry,
    List.mem_map.mpr ⟨q, CollectorSlots.mem_poeFields q, rfl⟩⟩)

/-- The readings are those of their ports just if each port is given its own status. -/
theorem readings_iff {found : Machine} (later : Machine) (answer : PortStatuses)
    (hpoe : (CollectorSlots.discover found).poe ≠ [])
    (hanswer : answer.WellFormed) (hbody : later.portStatuses = some answer.text) :
    (∀ w ∈ ((CollectorSlots.discover found).samplePoe later : List (Write CNumber)), ∀ port q,
      w.source = .poe port q → ∃ entry ∈ (CollectorSlots.discover found).poe,
        ∃ status ∈ answer.statuses, port = some entry.port ∧ w.idx = entry.idx q ∧
          status.port = some entry.port ∧ w.value = Narrows.toFloat (readingOf status.inner q)) ↔
      ∀ entry ∈ (CollectorSlots.discover found).poe.zip (onwards answer.statuses),
        ReadsPort entry.1.port entry.2 := by
  have hwell : ∀ {status : PortStatus} {rest : List PortStatus}, status :: rest <:+ answer.statuses →
      ∀ status' ∈ status :: rest, status'.WellFormed :=
    fun hsuffix status' hstatus' => hanswer.statuses status' (hsuffix.subset hstatus')
  constructor
  · rintro hown ⟨entry, l⟩ hentry
    obtain ⟨status, rest, rfl, hsuffix⟩ := exists_of_mem_onwards (List.of_mem_zip hentry).2
    have hread : ∀ q, status.port = some entry.port ∧
        readingOf (piecesOf (status :: rest)) q = readingOf status.inner q := by
      intro q
      obtain ⟨entry', hentry', status', hstatus', hport, hidx, hport', hvalue⟩ :=
        hown _ (mem_samplePoe_of_zip hpoe hanswer hbody hentry q) _ _ rfl
      have hsame := port_eq_of_idx (List.of_mem_zip hentry).1 hentry' hidx
      have hstatus : status' = status := List.inj_on_of_nodup_map hanswer.ports hstatus'
        (hsuffix.subset List.mem_cons_self) (hport'.trans hport.symm)
      rw [hsame, ← hstatus]
      rw [hstatus] at hvalue
      exact ⟨hport', hstatus ▸ reading_eq_of_stored (hwell hsuffix) hvalue⟩
    exact (reading_eq_iff (hwell hsuffix) _).mp ⟨(hread .power).1, fun q => (hread q).2⟩
  · intro hreads w hw port q hsource
    obtain ⟨budget, hbudget, heq⟩ := samplePoe_eq hpoe hanswer hbody
    rw [heq] at hw
    rcases List.mem_append.mp hw with hw | hw
    · obtain ⟨⟨entry, l⟩, hentry, hw⟩ := List.mem_flatMap.mp hw
      obtain ⟨q', -, rfl⟩ := List.mem_map.mp hw
      obtain ⟨status, rest, rfl, hsuffix⟩ := exists_of_mem_onwards (List.of_mem_zip hentry).2
      obtain ⟨rfl, rfl⟩ := Source.poe.inj hsource
      obtain ⟨hport, hvalue⟩ := (reading_eq_iff (hwell hsuffix) _).mpr (hreads _ hentry)
      exact ⟨entry, (List.of_mem_zip hentry).1, status, hsuffix.subset List.mem_cons_self, hport,
        rfl, hport, congrArg Narrows.toFloat (hvalue q')⟩
    · rcases List.mem_cons.mp hw with rfl | hw
      · cases hsource
      · rw [hbudget w hw] at hsource
        cases hsource

theorem map_snd_zip_eq_take {A B : Type} (as : List A) (bs : List B) :
    (as.zip bs).map Prod.snd = bs.take as.length := by
  rw [← zip_take_length, List.map_snd_zip (List.length_take_le _ _)]

/-- Where each port is given its own status, the powers that are added are those of the first
statuses. -/
theorem powers_eq (hreads : ∀ entry ∈ c.poe.zip (onwards answer.statuses),
      ReadsPort entry.1.port entry.2) (hanswer : answer.WellFormed) :
    ((onwards answer.statuses).take c.poe.length).map
        (fun statuses => readingOf (piecesOf statuses) .power) =
      (answer.statuses.take c.poe.length).map fun status => readingOf status.inner .power := by
  rw [← take_onwards, List.map_filterMap, ← List.filterMap_eq_map, ← map_snd_zip_eq_take,
    List.filterMap_map, List.filterMap_map]
  refine List.filterMap_congr fun entry hentry => ?_
  obtain ⟨status, rest, hl, hsuffix⟩ := exists_of_mem_onwards (List.of_mem_zip hentry).2
  have hread := hreads entry hentry
  rw [hl] at hread hsuffix
  simp only [Function.comp_apply, hl, List.head?_cons, Option.map_some]
  have hwell : ∀ status' ∈ status :: rest, status'.WellFormed :=
    fun status' hstatus' => hanswer.statuses status' (hsuffix.subset hstatus')
  exact congrArg some (((reading_eq_iff hwell _).mpr hread).2 .power)

/-- The total is the sum of the powers that are read. -/
theorem total_iff (hpoe : c.poe ≠ []) (hanswer : answer.WellFormed)
    (hbody : later.portStatuses = some answer.text) (sum : CNumber) :
    (∀ w ∈ (c.samplePoe later : List (Write CNumber)), w.source = .fixed .poeTotal →
        w.value = sum) ↔
      Narrows.toFloat (addedPowers (((onwards answer.statuses).take c.poe.length).map
        fun statuses => readingOf (piecesOf statuses) .power)) = sum := by
  obtain ⟨budget, hbudget, heq⟩ := samplePoe_eq hpoe hanswer hbody
  rw [heq]
  constructor
  · intro hsum
    exact hsum _ (List.mem_append_right _ List.mem_cons_self) rfl
  · rintro rfl w hw hsource
    rcases List.mem_append.mp hw with hw | hw
    · obtain ⟨entry, -, hw⟩ := List.mem_flatMap.mp hw
      obtain ⟨q, -, rfl⟩ := List.mem_map.mp hw
      cases hsource
    · rcases List.mem_cons.mp hw with rfl | hw
      · rfl
      · rw [hbudget w hw] at hsource
        cases hsource

/-- The readings that `sample_poe` sets are those of their ports, and the total is that of the
answer, just if the statuses come in the order of the ports. -/
theorem poeOwn_iff (found later : Machine) (answer : PortStatuses) (hanswer : answer.WellFormed)
    (hbody : later.portStatuses = some answer.text) :
    PoeOwn (CollectorSlots.discover found) answer ((CollectorSlots.discover found).samplePoe later) ↔
      found.ports = [] ∨ InPortOrder found.ports answer.statuses := by
  set c := CollectorSlots.discover found with hc
  have hports : c.poe.map PoePort.port = found.ports := (CollectorSlots.filed_discover found).ports
  by_cases hpoe : c.poe = []
  · have hnone : found.ports = [] := by rw [← hports, hpoe]; rfl
    have hwrites : (c.samplePoe later : List (Write CNumber)) = [] := by
      rw [CollectorSlots.samplePoe, if_pos hpoe]
    rw [hwrites]
    exact iff_of_true ⟨fun w hw => by simp at hw, fun w hw => by simp at hw⟩ (.inl hnone)
  have hsome : found.ports ≠ [] := by
    rw [← hports]
    exact fun h => hpoe (List.map_eq_nil_iff.mp h)
  have hzip : (∀ entry ∈ found.ports.zip (onwards answer.statuses), ReadsPort entry.1 entry.2) ↔
      ∀ entry ∈ c.poe.zip (onwards answer.statuses), ReadsPort entry.1.port entry.2 := by
    rw [← hports, List.zip_map_left, List.forall_mem_map]
    rfl
  have hlength : found.ports.length = c.poe.length := by rw [← hports, List.length_map]
  rw [or_iff_right hsome]
  have hreadings := readings_iff later answer hpoe hanswer hbody
  have htotal := total_iff hpoe hanswer hbody
  constructor
  · rintro ⟨hown, hsum⟩
    have hreads := hreadings.mp hown
    refine ⟨hzip.mpr hreads, ?_⟩
    have hadded := (htotal _).mp hsum
    rw [powers_eq hreads hanswer] at hadded
    rw [hlength]
    exact hadded
  · rintro ⟨hreads, hrest⟩
    rw [hzip] at hreads
    refine ⟨hreadings.mpr hreads, (htotal _).mpr ?_⟩
    rw [hlength] at hrest
    rw [powers_eq hreads hanswer]
    exact hrest

/-- A machine with nothing to read but an answer about the ports. -/
def poeMachine (answer : PortStatuses) : Machine where
  file _ := none
  isDir _ := false
  fileExists _ := false
  dirNames _ := none
  statvfs _ := none
  vapixGet endpoint :=
    if endpoint = ascii "nvr/poe/getportstatuses.cgi" then some answer.text else none

/-- A status with these fields. -/
def PortStatus.ofFields (fields : List (String × String)) : PortStatus where
  inner := fields.flatMap fun field =>
    [.tag (ascii field.1), .text (ascii field.2), .tag (ascii "/" ++ ascii field.1)]
  gap := []

/-- Two ports, both with a device. -/
def bothPowered : PortStatuses where
  preface := [.tag (ascii "PortStatuses")]
  statuses := [.ofFields [("Port", "1"), ("PowerConsumption", "3.5"), ("StatusCode", "1")],
    .ofFields [("Port", "2"), ("PowerConsumption", "6.5"), ("StatusCode", "1")]]

theorem poeOwn_bothPowered :
    PoeOwn (CollectorSlots.discover (poeMachine bothPowered)) bothPowered
      ((CollectorSlots.discover (poeMachine bothPowered)).samplePoe (poeMachine bothPowered)) :=
  (poeOwn_iff (poeMachine bothPowered) (poeMachine bothPowered) bothPowered (by decide)
    (by decide +kernel)).mpr (.inr (by decide +kernel))

/-- The device at the first port is gone, and its power with it. -/
def onePowered : PortStatuses where
  preface := [.tag (ascii "PortStatuses")]
  statuses := [.ofFields [("Port", "1"), ("StatusCode", "0")],
    .ofFields [("Port", "2"), ("PowerConsumption", "6.5"), ("StatusCode", "1")]]

/-- The power of the second port is given to the first one as well. -/
theorem not_poeOwn_onePowered :
    ¬ PoeOwn (CollectorSlots.discover (poeMachine bothPowered)) onePowered
      ((CollectorSlots.discover (poeMachine bothPowered)).samplePoe (poeMachine onePowered)) := by
  intro hown
  have hpoe : (CollectorSlots.discover (poeMachine bothPowered)).poe ≠ [] := by decide
  have hreads := (readings_iff (poeMachine onePowered) onePowered hpoe
    (by decide +kernel) (by decide +kernel)).mp hown.readings
  revert hreads
  decide

end AxisMetrics
