import RamUsb.Collector.Prometheus

/-!
# A scrape of `PrometheusHandler` as a text exposition

`PrometheusHandler` (`handlers/prometheus.go`) answers a `GET` with the collector's own five
families (`writeCollectorMetrics`: liveness, the three message counters of
`mqtt.GetStatistics()` and the rejection rate) followed by the services' metrics
(`writeServiceMetrics`), and any other method with `405`. `main.go` mounts only
`/api/health` and `/api/stats`; what follows is about the handler, wherever it is mounted.

A scraper reads the body line by line (`parseExposition`): a `# HELP` or a `# TYPE` line, a
comment, an empty line, or a sample `name{labels} value`. `Line.render` is the line each kind
is written as, and on the lines `Line.printable` admits (metric names, label-name keys,
values that are one word) reading undoes writing (`parseExposition_render`). Both writers
of the handler write such lines:

* `exposition_roundtrip`: when every metric name is a metric name and every label key a
  label name, the service section reads back as one group per distinct name, in sorted
  order, each with its `HELP` and `TYPE` lines; the samples read back are the metrics the
  storage returned, each once, with its labels in sorted key order.
* `scrape_wellFormed_iff`: the whole body then reads back, and it obeys the format's rules
  (one `TYPE` and one `HELP` line per name, the `TYPE` before the name's samples) exactly when
  no service metric bears one of the collector's five names. `validateMetric` bounds a name's
  length only (`validateMetric_collectorName`), so one published metric named like a
  collector family spoils every scrape.

Go's `%d` is `itoa`; what `%f` and `%.2f` print are the parameters `formatFloat` and
`formatRate`, of which the results only need to be one word.
-/

namespace RamUsb.Collector

open Go

/-- A space. -/
def space : UInt8 := 32

/-- `#`, which starts a comment. -/
def hashMark : UInt8 := 35

/-! ### The handler -/

/-- One family of `writeCollectorMetrics`: the three `fmt.Fprintf` calls that write its
`# HELP` and `# TYPE` lines and its one sample, followed by an empty line. -/
def collectorFamily (name help type value : Str) : Str :=
  lit "# HELP " ++ name ++ lit " " ++ help ++ [newline] ++
    lit "# TYPE " ++ name ++ lit " " ++ type ++ [newline] ++
    name ++ lit " " ++ value ++ [newline, newline]

/-- The rejection rate of `writeCollectorMetrics`, in percent. -/
def rejectionRate (received rejected : Nat) : ℚ :=
  if 0 < received then (rejected : ℚ) / received * 100 else 0

/-- The five families of `writeCollectorMetrics`, in the order it writes them: name, help
text, type and value. `%d` is `itoa` and `%.2f` is the parameter `formatRate`. -/
def collectorFamilies (formatRate : ℚ → Str) (received rejected stored : Nat) :
    List (Str × Str × Str × Str) :=
  [(lit "ramusb_metrics_collector_up", lit "Indicates if the metrics collector is running",
      lit "gauge", lit "1"),
    (lit "ramusb_metrics_received_total", lit "Total number of metrics received via MQTT",
      lit "counter", itoa received),
    (lit "ramusb_metrics_rejected_total",
      lit "Total number of metrics rejected for containing sensitive data", lit "counter",
      itoa rejected),
    (lit "ramusb_metrics_stored_total", lit "Total number of metrics stored in TimescaleDB",
      lit "counter", itoa stored),
    (lit "ramusb_metrics_rejection_rate_percent", lit "Percentage of metrics rejected",
      lit "gauge", formatRate (rejectionRate received rejected))]

/-- `writeCollectorMetrics(w)`, given what `mqtt.GetStatistics()` returned. -/
def writeCollectorMetrics (formatRate : ℚ → Str) (received rejected stored : Nat) : Str :=
  (collectorFamilies formatRate received rejected stored).flatMap
    fun (name, help, type, value) => collectorFamily name help type value

/-- The names of the collector's own families. -/
def collectorNames : List Str :=
  [lit "ramusb_metrics_collector_up", lit "ramusb_metrics_received_total",
    lit "ramusb_metrics_rejected_total", lit "ramusb_metrics_stored_total",
    lit "ramusb_metrics_rejection_rate_percent"]

/-- `PrometheusHandler(w, r)`: the status and the body, given the method, what
`mqtt.GetStatistics()` returned and what `storage.GetRecentMetrics` returned. `http.Error`
writes its message and a newline. -/
def prometheusHandler (formatRate formatFloat : ℚ → Str) (method : Str)
    (stats : Nat × Nat × Nat) (recent : Except Str (List MetricData)) : Nat × Str :=
  if method ≠ lit "GET" then (405, lit "Method not allowed" ++ [newline])
  else (200, writeCollectorMetrics formatRate stats.1 stats.2.1 stats.2.2 ++
    writeServiceMetrics formatFloat recent)

/-! ### Lines of the text format -/

/-- A line of the text exposition format. -/
inductive Line
  | blank
  | help (name text : Str)
  | type (name kind : Str)
  | comment (text : Str)
  | sample (name : Str) (labels : List (Str × Str)) (value : Str)
  deriving DecidableEq

namespace Line

/-- The text of a line, without its newline. -/
def render : Line → Str
  | blank => []
  | help name text => lit "# HELP " ++ name ++ lit " " ++ text
  | type name kind => lit "# TYPE " ++ name ++ lit " " ++ kind
  | comment text => hashMark :: text
  | sample name labels value => name ++ labelBlock labels ++ lit " " ++ value

/-- The name a `# TYPE` line declares. -/
def typeName? : Line → Option Str
  | type name _ => some name
  | _ => none

/-- The name a `# HELP` line describes. -/
def helpName? : Line → Option Str
  | help name _ => some name
  | _ => none

/-- A sample's name, labels and value. -/
def sample? : Line → Option (Str × List (Str × Str) × Str)
  | sample name labels value => some (name, labels, value)
  | _ => none

end Line

/-- Lines, each ended by a newline. -/
def render (lines : List Line) : Str := lines.flatMap fun l => l.render ++ [newline]

/-- A byte of a metric name: a byte of a label name, or `:`. -/
def isMetricNameByte (b : UInt8) : Bool := isNameByte b || b == colon

/-- A metric name, `[a-zA-Z_:][a-zA-Z0-9_:]*`. -/
def isMetricName : Str → Bool
  | [] => false
  | b :: rest => (isNameStart b || b == colon) && rest.all isMetricNameByte

/-- The types a `# TYPE` line may declare. -/
def expositionTypes : List Str :=
  [lit "counter", lit "gauge", lit "histogram", lit "summary", lit "untyped"]

/-- A metric name, a space and the rest of the line. -/
def parseDescriptor (s : Str) : Option (Str × Str) :=
  match s.span isMetricNameByte with
  | (name, b :: text) => if isMetricName name ∧ b = space then some (name, text) else none
  | _ => none

/-- A sample line: the name runs to the first byte no name holds, the value is what follows
the last space, and what lies between is a label block. -/
def parseSample (line : Str) : Option Line :=
  let (name, rest) := line.span isMetricNameByte
  match rest.reverse.span (· != space) with
  | (value, _ :: block) =>
    if isMetricName name ∧ value ≠ [] then
      (parseLabels block.reverse).map fun labels => .sample name labels value.reverse
    else none
  | _ => none

/-- One line of a scrape, as the text format defines it; `none` for a malformed line. -/
def parseLine : Str → Option Line
  | [] => some .blank
  | b :: rest =>
    if b = hashMark then
      if rest.take 6 = lit " HELP " then
        (parseDescriptor (rest.drop 6)).map fun (name, text) => .help name text
      else if rest.take 6 = lit " TYPE " then
        match parseDescriptor (rest.drop 6) with
        | some (name, kind) => if kind ∈ expositionTypes then some (.type name kind) else none
        | none => none
      else some (.comment rest)
    else parseSample (b :: rest)

/-- A scrape body read as its lines. -/
def parseExposition (text : Str) : Option (List Line) := (split text newline).mapM parseLine

/-- One word: what `%d`, `%f` and `%.2f` print is non-empty and holds no space or newline. -/
def isToken (v : Str) : Bool := decide (v ≠ [] ∧ space ∉ v ∧ newline ∉ v)

/-- The lines `parseLine` reads back from their text. -/
def Line.printable : Line → Bool
  | .blank => true
  | .help name text => isMetricName name && decide (newline ∉ text)
  | .type name kind => isMetricName name && decide (kind ∈ expositionTypes)
  | .comment text =>
    decide (text.take 6 ≠ lit " HELP " ∧ text.take 6 ≠ lit " TYPE " ∧ newline ∉ text)
  | .sample name labels value =>
    isMetricName name && labels.all (fun p => isLabelName p.1) && isToken value

/-- The rules of the text format a scrape enforces: at most one `# TYPE` and one `# HELP`
line per name, and a sample only after the `# TYPE` line of its name. -/
def typedBefore : List Str → List Line → Bool
  | _, [] => true
  | seen, .type name _ :: lines => typedBefore (name :: seen) lines
  | seen, .sample name _ _ :: lines => decide (name ∈ seen) && typedBefore seen lines
  | seen, _ :: lines => typedBefore seen lines

/-- A well formed exposition. -/
def WellFormed (lines : List Line) : Prop :=
  (lines.filterMap Line.typeName?).Nodup ∧ (lines.filterMap Line.helpName?).Nodup ∧
    typedBefore [] lines = true

instance : DecidablePred WellFormed := fun _ => inferInstanceAs (Decidable (_ ∧ _ ∧ _))

/-! ### Reading a line back -/

/-- `span` stops at the first byte outside the class. -/
theorem span_append_stop {p : UInt8 → Bool} {l : Str} (hl : ∀ x ∈ l, p x = true) {b : UInt8}
    (hb : p b = false) (r : Str) : (l ++ b :: r).span p = (l, b :: r) := by
  rw [List.span_eq_take_drop, List.takeWhile_append_of_pos hl, List.dropWhile_append_of_pos hl,
    List.takeWhile_cons_of_neg (by simp [hb]), List.dropWhile_cons_of_neg (by simp [hb]),
    List.append_nil]

theorem isMetricName_all {name : Str} (h : isMetricName name = true) :
    ∀ b ∈ name, isMetricNameByte b = true := by
  cases name with
  | nil => cases h
  | cons c rest =>
    simp only [isMetricName, Bool.and_eq_true, List.all_eq_true] at h
    intro b hb
    rcases List.mem_cons.mp hb with rfl | hb
    · simp only [isMetricNameByte, isNameByte, Bool.or_eq_true] at h ⊢
      rcases h.1 with h | h
      exacts [.inl (.inl h), .inr h]
    · exact h.2 b hb

/-- A metric name is not empty and does not start with `#`. -/
theorem isMetricName_cons {name : Str} (h : isMetricName name = true) :
    ∃ c cs, name = c :: cs ∧ c ≠ hashMark := by
  cases name with
  | nil => cases h
  | cons c cs =>
    refine ⟨c, cs, rfl, fun hc => ?_⟩
    have : (isNameStart hashMark || hashMark == colon) = false := by decide
    simp [isMetricName, hc, this] at h

theorem not_mem_of_isMetricName {name : Str} (h : isMetricName name = true) {b : UInt8}
    (hb : isMetricNameByte b = false) : b ∉ name := fun hm => by
  simp [isMetricName_all h b hm] at hb

theorem isMetricNameByte_space : isMetricNameByte space = false := by decide

theorem isMetricNameByte_newline : isMetricNameByte newline = false := by decide

theorem parseDescriptor_name {name : Str} (hname : isMetricName name = true) (text : Str) :
    parseDescriptor (name ++ space :: text) = some (name, text) := by
  unfold parseDescriptor
  rw [span_append_stop (isMetricName_all hname) isMetricNameByte_space]
  simp [hname]

theorem parseLine_help {name : Str} (hname : isMetricName name = true) (text : Str) :
    parseLine (Line.help name text).render = some (.help name text) := by
  have hr : (Line.help name text).render = hashMark :: (lit " HELP " ++ (name ++ space :: text)) := by
    simp only [Line.render, List.append_assoc]; rfl
  have ht : (lit " HELP " ++ (name ++ space :: text)).take 6 = lit " HELP " := List.take_left' rfl
  have hd : (lit " HELP " ++ (name ++ space :: text)).drop 6 = name ++ space :: text :=
    List.drop_left' rfl
  rw [hr, parseLine, if_pos rfl, ht, if_pos rfl, hd, parseDescriptor_name hname]
  rfl

theorem parseLine_type {name kind : Str} (hname : isMetricName name = true)
    (hkind : kind ∈ expositionTypes) :
    parseLine (Line.type name kind).render = some (.type name kind) := by
  have hr : (Line.type name kind).render = hashMark :: (lit " TYPE " ++ (name ++ space :: kind)) := by
    simp only [Line.render, List.append_assoc]; rfl
  have ht : (lit " TYPE " ++ (name ++ space :: kind)).take 6 = lit " TYPE " := List.take_left' rfl
  have hd : (lit " TYPE " ++ (name ++ space :: kind)).drop 6 = name ++ space :: kind :=
    List.drop_left' rfl
  have hne : lit " TYPE " ≠ lit " HELP " := by decide
  rw [hr, parseLine, if_pos rfl, ht, if_neg hne, if_pos rfl, hd, parseDescriptor_name hname]
  simp [hkind]

theorem parseLine_comment {text : Str} (h₁ : text.take 6 ≠ lit " HELP ")
    (h₂ : text.take 6 ≠ lit " TYPE ") :
    parseLine (Line.comment text).render = some (.comment text) := by
  show parseLine (hashMark :: text) = _
  rw [parseLine, if_pos rfl, if_neg h₁, if_neg h₂]

/-- After a sample's name comes a byte no name holds: the `{` of its labels, or the space. -/
theorem labelBlock_append_space (labels : List (Str × Str)) (value : Str) :
    ∃ b r, labelBlock labels ++ space :: value = b :: r ∧ isMetricNameByte b = false := by
  unfold labelBlock
  split
  · exact ⟨space, value, rfl, isMetricNameByte_space⟩
  · exact ⟨lbrace, _, rfl, by decide⟩

theorem parseLine_sample {name value : Str} {labels : List (Str × Str)}
    (hname : isMetricName name = true) (hlabels : ∀ p ∈ labels, isLabelName p.1 = true)
    (hvalue : isToken value = true) :
    parseLine (Line.sample name labels value).render = some (.sample name labels value) := by
  simp only [isToken, decide_eq_true_eq] at hvalue
  have hr : (Line.sample name labels value).render = name ++ (labelBlock labels ++ space :: value) := by
    simp only [Line.render, List.append_assoc]; rfl
  have hsample : parseLine (name ++ (labelBlock labels ++ space :: value)) =
      parseSample (name ++ (labelBlock labels ++ space :: value)) := by
    obtain ⟨c, cs, rfl, hc⟩ := isMetricName_cons hname
    rw [List.cons_append, parseLine, if_neg hc]
  obtain ⟨b, r, hbr, hb⟩ := labelBlock_append_space labels value
  have hspan : (name ++ (labelBlock labels ++ space :: value)).span isMetricNameByte =
      (name, labelBlock labels ++ space :: value) := by
    rw [hbr]; exact span_append_stop (isMetricName_all hname) hb r
  have hrev : (labelBlock labels ++ space :: value).reverse.span (· != space) =
      (value.reverse, space :: (labelBlock labels).reverse) := by
    rw [List.reverse_append, List.reverse_cons, List.append_assoc, List.singleton_append]
    refine span_append_stop (fun x hx => ?_) (by simp) _
    have : x ≠ space := fun h => hvalue.2.1 (h ▸ List.mem_reverse.mp hx)
    simpa using this
  rw [hr, hsample, parseSample, hspan]
  simp only [hrev, hname, ne_eq, List.reverse_eq_nil_iff, hvalue.1, not_false_eq_true, and_self,
    if_true, List.reverse_reverse, parseLabels_labelBlock labels hlabels, Option.map_some']

/-- **Reading a printable line undoes writing it.** -/
theorem parseLine_render {l : Line} (h : l.printable = true) : parseLine l.render = some l := by
  cases l with
  | blank => simp [Line.render, parseLine]
  | help name text =>
    simp only [Line.printable, Bool.and_eq_true] at h
    exact parseLine_help h.1 text
  | type name kind =>
    simp only [Line.printable, Bool.and_eq_true, decide_eq_true_eq] at h
    exact parseLine_type h.1 h.2
  | comment text =>
    simp only [Line.printable, decide_eq_true_eq] at h
    exact parseLine_comment h.1 h.2.1
  | sample name labels value =>
    simp only [Line.printable, Bool.and_eq_true, List.all_eq_true] at h
    exact parseLine_sample h.1.1 h.1.2 h.2

/-! ### Reading a text back -/

theorem isLabelName_not_mem {key : Str} (h : isLabelName key = true) {b : UInt8}
    (hb : isNameByte b = false) : b ∉ key := by
  cases key with
  | nil => cases h
  | cons c rest =>
    simp only [isLabelName, Bool.and_eq_true, List.all_eq_true] at h
    rintro (_ | ⟨_, hm⟩)
    · simp [isNameByte, h.1] at hb
    · simp [h.2 b hm] at hb

theorem newline_not_mem_escapeLabelValue (value : Str) : newline ∉ escapeLabelValue value := by
  induction value with
  | nil => simp
  | cons b value ih =>
    rw [escapeLabelValue_cons]
    have : newline ≠ backslash ∧ newline ≠ quote ∧ newline ≠ (110 : UInt8) := by decide
    split_ifs with h₁ h₂ h₃
    · simp [ih, this.1]
    · simp [ih, this.1, this.2.1]
    · simp [ih, this.1, this.2.2]
    · simp [ih, Ne.symm h₃]

/-- A byte of `join parts sep` is a byte of the separator or of a part. -/
theorem mem_join {parts : List Str} {sep : Str} {b : UInt8} (h : b ∈ join parts sep) :
    b ∈ sep ∨ ∃ part ∈ parts, b ∈ part :=
  match parts, h with
  | [], h => by simp [join, List.intercalate] at h
  | [a], h => .inr ⟨a, List.mem_singleton_self a, by simpa using h⟩
  | a :: c :: l, h => by
    rw [join_cons_cons] at h
    rcases List.mem_append.mp h with h | h
    · rcases List.mem_append.mp h with h | h
      exacts [.inr ⟨a, List.mem_cons_self _ _, h⟩, .inl h]
    · rcases mem_join h with h | ⟨part, hp, hb⟩
      exacts [.inl h, .inr ⟨part, List.mem_cons_of_mem _ hp, hb⟩]

theorem newline_not_mem_labelBlock {ps : List (Str × Str)} (hps : ∀ p ∈ ps, isLabelName p.1 = true) :
    newline ∉ labelBlock ps := by
  unfold labelBlock
  split
  · simp
  · simp only [List.mem_append, List.mem_singleton, not_or]
    refine ⟨⟨by decide, fun h => ?_⟩, by decide⟩
    rcases mem_join h with h | ⟨part, hmem, hin⟩
    · exact absurd h (by decide)
    · obtain ⟨p, hp, rfl⟩ := List.mem_map.mp hmem
      have hkey := isLabelName_not_mem (hps p hp) (b := newline) (by decide)
      have h₁ : newline ∉ lit "=" := by decide
      have h₂ : newline ≠ quote := by decide
      have h₃ := newline_not_mem_escapeLabelValue p.2
      simp only [labelPart, List.mem_append, List.mem_singleton, hkey, h₁, h₂, h₃, or_self] at hin

theorem newline_not_mem_render {l : Line} (h : l.printable = true) : newline ∉ l.render := by
  have hname {name : Str} (hn : isMetricName name = true) := not_mem_of_isMetricName hn isMetricNameByte_newline
  have hsp : newline ∉ lit " " := by decide
  cases l with
  | blank => simp [Line.render]
  | help name text =>
    simp only [Line.printable, Bool.and_eq_true, decide_eq_true_eq] at h
    have : newline ∉ lit "# HELP " := by decide
    simp [Line.render, this, hname h.1, hsp, h.2]
  | type name kind =>
    simp only [Line.printable, Bool.and_eq_true, decide_eq_true_eq] at h
    have : newline ∉ lit "# TYPE " := by decide
    have htypes : ∀ t ∈ expositionTypes, newline ∉ t := by decide
    simp [Line.render, this, hname h.1, hsp, htypes _ h.2]
  | comment text =>
    simp only [Line.printable, decide_eq_true_eq] at h
    simp [Line.render, h.2.2, show newline ≠ hashMark by decide]
  | sample name labels value =>
    simp only [Line.printable, Bool.and_eq_true, List.all_eq_true, isToken,
      decide_eq_true_eq] at h
    simp [Line.render, hname h.1.1, newline_not_mem_labelBlock h.1.2, hsp, h.2.2.2]

theorem render_append (l₁ l₂ : List Line) : render (l₁ ++ l₂) = render l₁ ++ render l₂ :=
  List.flatMap_append _ _ _

theorem render_flatMap {α : Type} (xs : List α) (g : α → List Line) :
    render (xs.flatMap g) = xs.flatMap fun x => render (g x) :=
  List.flatMap_assoc _ _ _

/-- Lines written one per line are the pieces of the text between its newlines, and an empty
piece after the last. -/
theorem render_eq_join (lines : List Line) :
    render lines = join (lines.map Line.render ++ [[]]) [newline] := by
  induction lines with
  | nil => rfl
  | cons l lines ih =>
    obtain ⟨b, bs, hb⟩ := List.exists_cons_of_ne_nil
      (List.append_ne_nil_of_right_ne_nil (lines.map Line.render) (List.cons_ne_nil [] []))
    rw [List.map_cons, List.cons_append, hb, join_cons_cons, ← hb, ← ih]
    simp only [render, List.flatMap_cons, List.append_assoc]

/-- **Reading undoes writing.** Lines that are all printable, written one per line, read back
as themselves, followed by the empty line after the last newline. -/
theorem parseExposition_render (lines : List Line) (h : ∀ l ∈ lines, l.printable = true) :
    parseExposition (render lines) = some (lines ++ [.blank]) := by
  have hsplit : split (render lines) newline = lines.map Line.render ++ [[]] := by
    rw [render_eq_join]
    refine split_intercalate newline _ (fun piece hp => ?_) (by simp)
    rcases List.mem_append.mp hp with hp | hp
    · obtain ⟨l, hl, rfl⟩ := List.mem_map.mp hp
      exact newline_not_mem_render (h l hl)
    · simp only [List.mem_singleton] at hp
      simp [hp]
  rw [parseExposition, hsplit]
  clear hsplit
  induction lines with
  | nil => rfl
  | cons l lines ih =>
    rw [List.map_cons, List.cons_append, List.mapM_cons, parseLine_render (h l (List.mem_cons_self _ _)),
      ih fun l hl => h l (List.mem_cons_of_mem _ hl)]
    rfl

/-! ### What the handler writes -/

/-- The lines of one of the collector's families. -/
def familyLines (name help type value : Str) : List Line :=
  [.help name help, .type name type, .sample name [] value, .blank]

/-- The lines of `writeCollectorMetrics`. -/
def collectorLines (formatRate : ℚ → Str) (received rejected stored : Nat) : List Line :=
  (collectorFamilies formatRate received rejected stored).flatMap
    fun (name, help, type, value) => familyLines name help type value

/-- The lines of one name's group of `writeServiceMetrics`: its `HELP` and `TYPE` lines, the
type that of the group's first metric, one sample per metric, an empty line. -/
def groupLines (formatFloat : ℚ → Str) (metricName : Str) : List MetricData → List Line
  | [] => []
  | metrics@(first :: _) =>
    [.help metricName (getMetricHelp metricName), .type metricName (prometheusType first.type)] ++
      metrics.map (fun m => .sample metricName (sortedEntries m.labels) (formatFloat m.value)) ++
      [.blank]

/-- The names of the groups, in the order `writeServiceMetrics` writes them. -/
def groupNames (metrics : List MetricData) : List Str :=
  sortStrings (metrics.map MetricData.name).eraseDups

/-- The lines of `writeServiceMetrics`. -/
def serviceLines (formatFloat : ℚ → Str) : Except Str (List MetricData) → List Line
  | .error _ => [.comment (lit " ERROR: Failed to retrieve service metrics")]
  | .ok metrics => (groupNames metrics).flatMap fun metricName =>
    groupLines formatFloat metricName (metrics.filter fun m => m.name = metricName)

theorem collectorFamily_eq_render (name help type value : Str) :
    collectorFamily name help type value = render (familyLines name help type value) := by
  simp [collectorFamily, familyLines, render, Line.render, labelBlock]

theorem writeCollectorMetrics_eq_render (formatRate : ℚ → Str) (received rejected stored : Nat) :
    writeCollectorMetrics formatRate received rejected stored =
      render (collectorLines formatRate received rejected stored) := by
  rw [collectorLines, render_flatMap, writeCollectorMetrics]
  exact List.flatMap_congr fun ⟨name, help, type, value⟩ _ =>
    collectorFamily_eq_render name help type value

theorem sampleLine_eq_render (formatFloat : ℚ → Str) (metricName : Str) :
    sampleLine formatFloat metricName = fun m =>
      (Line.sample metricName (sortedEntries m.labels) (formatFloat m.value)).render ++ [newline] := by
  funext m
  simp [sampleLine, Line.render, formatLabels_eq_labelBlock]

theorem writeGroup_eq_render (formatFloat : ℚ → Str) (metricName : Str) (metrics : List MetricData) :
    writeGroup formatFloat metricName metrics = render (groupLines formatFloat metricName metrics) := by
  cases metrics with
  | nil => rfl
  | cons first rest =>
    simp [writeGroup, groupLines, render, Line.render, sampleLine_eq_render, List.flatMap_map]

theorem writeServiceMetrics_eq_render (formatFloat : ℚ → Str) (recent : Except Str (List MetricData)) :
    writeServiceMetrics formatFloat recent = render (serviceLines formatFloat recent) := by
  cases recent with
  | error _ => rfl
  | ok metrics =>
    rw [serviceLines, render_flatMap, writeServiceMetrics, groupNames]
    simp only [writeGroup_eq_render]

/-! ### The groups of the service section -/

theorem eraseDups_loop_nil (bs : List Str) : List.eraseDups.loop [] bs = bs.reverse := rfl

theorem eraseDups_loop_cons (a : Str) (as bs : List Str) :
    List.eraseDups.loop (a :: as) bs =
      if a ∈ bs then List.eraseDups.loop as bs else List.eraseDups.loop as (a :: bs) := by
  change (match bs.elem a with
    | true => List.eraseDups.loop as bs | false => List.eraseDups.loop as (a :: bs)) = _
  rw [List.elem_eq_mem]
  by_cases h : a ∈ bs <;> simp [h]

theorem mem_eraseDups_loop {x : Str} :
    ∀ as bs : List Str, x ∈ List.eraseDups.loop as bs ↔ x ∈ as ∨ x ∈ bs
  | [], bs => by simp [eraseDups_loop_nil]
  | a :: as, bs => by
    rw [eraseDups_loop_cons]
    split_ifs with h
    · rw [mem_eraseDups_loop as bs, List.mem_cons]
      constructor
      · rintro (hx | hx)
        exacts [.inl (.inr hx), .inr hx]
      · rintro ((rfl | hx) | hx)
        exacts [.inr h, .inl hx, .inr hx]
    · rw [mem_eraseDups_loop as (a :: bs), List.mem_cons, List.mem_cons, or_assoc]
      exact or_left_comm

theorem nodup_eraseDups_loop : ∀ as bs : List Str, bs.Nodup → (List.eraseDups.loop as bs).Nodup
  | [], bs, h => by rw [eraseDups_loop_nil]; exact List.nodup_reverse.mpr h
  | a :: as, bs, h => by
    rw [eraseDups_loop_cons]
    split_ifs with ha
    · exact nodup_eraseDups_loop as bs h
    · exact nodup_eraseDups_loop as (a :: bs) (List.nodup_cons.mpr ⟨ha, h⟩)

/-- The groups are named by the metrics' names, each once. -/
theorem mem_groupNames {metrics : List MetricData} {metricName : Str} :
    metricName ∈ groupNames metrics ↔ ∃ m ∈ metrics, m.name = metricName := by
  rw [groupNames, (perm_sortStrings _).mem_iff]
  change metricName ∈ List.eraseDups.loop _ [] ↔ _
  simp [mem_eraseDups_loop]

theorem nodup_groupNames (metrics : List MetricData) : (groupNames metrics).Nodup :=
  (perm_sortStrings _).nodup_iff.mpr (nodup_eraseDups_loop _ [] List.nodup_nil)

/-- Grouping by distinct names neither loses nor repeats a metric. -/
theorem flatMap_filter_perm {names : List Str} (hnd : names.Nodup) (metrics : List MetricData) :
    (names.flatMap fun n => metrics.filter fun m => m.name = n).Perm
      (metrics.filter fun m => m.name ∈ names) := by
  induction names with
  | nil => simp
  | cons n names ih =>
    obtain ⟨hn, hnd⟩ := List.nodup_cons.mp hnd
    rw [List.flatMap_cons]
    refine ((ih hnd).append_left _).trans ?_
    have hsplit := List.filter_append_perm (fun m : MetricData => decide (m.name = n))
      (metrics.filter fun m => m.name ∈ n :: names)
    rw [List.filter_filter, List.filter_filter] at hsplit
    refine (List.Perm.append ?_ ?_).trans hsplit <;>
      refine .of_eq (List.filter_congr fun m _ => ?_)
    · by_cases h : m.name = n <;> simp [h]
    · by_cases h : m.name = n
      · simp [h, hn]
      · simp [h]

/-- The samples of the service section are the metrics, in group order. -/
theorem samples_serviceLines (formatFloat : ℚ → Str) (metrics : List MetricData) :
    (serviceLines formatFloat (.ok metrics)).filterMap Line.sample? =
      ((groupNames metrics).flatMap fun n => metrics.filter fun m => m.name = n).map
        fun m => (m.name, sortedEntries m.labels, formatFloat m.value) := by
  rw [serviceLines, List.filterMap_flatMap, List.map_flatMap]
  refine List.flatMap_congr fun n _ => ?_
  generalize hg : metrics.filter (fun m => m.name = n) = group
  have hname : ∀ m ∈ group, m.name = n := fun m hm => by
    rw [← hg] at hm; simpa using (List.mem_filter.mp hm).2
  cases group with
  | nil => rfl
  | cons first rest =>
    have hcomp : (Line.sample? ∘ fun m : MetricData =>
        Line.sample n (sortedEntries m.labels) (formatFloat m.value)) =
        some ∘ fun m => (n, sortedEntries m.labels, formatFloat m.value) := rfl
    rw [groupLines, List.filterMap_append, List.filterMap_append, List.filterMap_map, hcomp,
      List.filterMap_eq_map]
    change [] ++ _ ++ [] = _
    rw [List.nil_append, List.append_nil]
    exact List.map_congr_left fun m hm => by simp [hname m hm]

/-! ### Printable lines -/

theorem newline_not_mem_getMetricHelp {metricName : Str} (hname : isMetricName metricName = true) :
    newline ∉ getMetricHelp metricName := by
  unfold getMetricHelp
  split
  · rename_i help h
    have htable : ∀ e ∈ helpTexts, newline ∉ e.2 := by decide
    exact htable _ (GoMap.mem_of_lookup_eq_some h)
  · have h₁ : newline ∉ lit "Metric " := by decide
    have h₂ : newline ∉ lit " from R.A.M.-U.S.B. services" := by decide
    simp [h₁, h₂, not_mem_of_isMetricName hname isMetricNameByte_newline]

theorem prometheusType_mem (t : Str) : prometheusType t ∈ expositionTypes := by
  unfold prometheusType
  split
  · have : ∀ u ∈ [lit "counter", lit "gauge", lit "histogram", lit "summary"],
        u ∈ expositionTypes := by decide
    exact this t ‹_›
  · decide

theorem isToken_itoa (n : Int) : isToken (itoa n) = true := by
  obtain ⟨hne, hb⟩ := itoa_bytes n
  have hsp : space ∉ itoa n := fun h => by
    rcases hb _ h with h | h
    · exact absurd h.1 (by decide)
    · exact absurd h (by decide)
  have hnl : newline ∉ itoa n := fun h => by
    rcases hb _ h with h | h
    · exact absurd h.1 (by decide)
    · exact absurd h (by decide)
  simp [isToken, hne, hsp, hnl]

theorem collectorLines_printable {formatRate : ℚ → Str} (hrate : ∀ q, isToken (formatRate q) = true)
    (received rejected stored : Nat) :
    ∀ l ∈ collectorLines formatRate received rejected stored, l.printable = true := by
  have hfamily : ∀ name help type value, isMetricName name = true → newline ∉ help →
      type ∈ expositionTypes → isToken value = true →
      ∀ l ∈ familyLines name help type value, l.printable = true := by
    intro name help type value hn hh ht hv l hl
    simp only [familyLines, List.mem_cons, List.mem_singleton, List.not_mem_nil, or_false] at hl
    rcases hl with rfl | rfl | rfl | rfl <;> simp [Line.printable, hn, hh, ht, hv]
  intro l hl
  simp only [collectorLines, collectorFamilies, List.flatMap_cons, List.flatMap_nil,
    List.append_nil, List.mem_append] at hl
  rcases hl with hl | hl | hl | hl | hl <;>
    refine hfamily _ _ _ _ (by decide) (by decide) (by decide) ?_ l hl
  exacts [by decide, isToken_itoa _, isToken_itoa _, isToken_itoa _, hrate _]

section ServiceMetrics

variable {formatFloat : ℚ → Str} {metrics : List MetricData}

theorem groupLines_printable (hfloat : ∀ q, isToken (formatFloat q) = true) {metricName : Str}
    (hname : isMetricName metricName = true) {group : List MetricData}
    (hkeys : ∀ m ∈ group, ∀ key ∈ m.labels.keys, isLabelName key = true) :
    ∀ l ∈ groupLines formatFloat metricName group, l.printable = true := by
  cases group with
  | nil => simp [groupLines]
  | cons first rest =>
    intro l hl
    simp only [groupLines, List.mem_append, List.mem_map] at hl
    rcases hl with (hl | ⟨m, hm, rfl⟩) | hl
    · simp only [List.mem_cons, List.mem_singleton, List.not_mem_nil, or_false] at hl
      rcases hl with rfl | rfl
      · simp [Line.printable, hname, newline_not_mem_getMetricHelp hname]
      · simp [Line.printable, hname, prometheusType_mem]
    · simp only [Line.printable, hname, hfloat, Bool.and_true, Bool.true_and, List.all_eq_true]
      intro p hp
      obtain ⟨key, hkey, rfl⟩ := List.mem_map.mp hp
      exact hkeys m hm key ((perm_sortStrings _).mem_iff.mp hkey)
    · rw [List.mem_singleton.mp hl]
      rfl

theorem serviceLines_printable (hfloat : ∀ q, isToken (formatFloat q) = true)
    (hnames : ∀ m ∈ metrics, isMetricName m.name = true)
    (hkeys : ∀ m ∈ metrics, ∀ key ∈ m.labels.keys, isLabelName key = true) :
    ∀ l ∈ serviceLines formatFloat (.ok metrics), l.printable = true := by
  intro l hl
  obtain ⟨n, hn, hl⟩ := List.mem_flatMap.mp hl
  obtain ⟨m, hm, rfl⟩ := mem_groupNames.mp hn
  exact groupLines_printable hfloat (hnames m hm)
    (fun m' hm' => hkeys m' (List.mem_filter.mp hm').1) l hl

end ServiceMetrics

/-! ### The rules of the format -/

/-- Lines that declare each name they sample before its samples, whatever came before them. -/
def SelfTyped (lines : List Line) : Prop := ∀ seen, typedBefore seen lines = true

theorem typedBefore_append {l₂ : List Line} (h₂ : SelfTyped l₂) :
    ∀ (l₁ : List Line) (seen : List Str), typedBefore seen l₁ = true →
      typedBefore seen (l₁ ++ l₂) = true
  | [], seen, _ => h₂ seen
  | l :: l₁, seen, h₁ => by
    cases l <;> simp only [typedBefore, List.cons_append, Bool.and_eq_true] at h₁ ⊢
    case type name _ => exact typedBefore_append h₂ l₁ _ h₁
    case sample => exact ⟨h₁.1, typedBefore_append h₂ l₁ _ h₁.2⟩
    all_goals exact typedBefore_append h₂ l₁ _ h₁

theorem SelfTyped.append {l₁ l₂ : List Line} (h₁ : SelfTyped l₁) (h₂ : SelfTyped l₂) :
    SelfTyped (l₁ ++ l₂) := fun seen => typedBefore_append h₂ l₁ seen (h₁ seen)

theorem SelfTyped.flatMap {α : Type} (xs : List α) {g : α → List Line}
    (h : ∀ x ∈ xs, SelfTyped (g x)) : SelfTyped (xs.flatMap g) := by
  induction xs with
  | nil => exact fun _ => rfl
  | cons x xs ih =>
    rw [List.flatMap_cons]
    exact (h x (List.mem_cons_self _ _)).append (ih fun y hy => h y (List.mem_cons_of_mem _ hy))

theorem familyLines_selfTyped (name help type value : Str) :
    SelfTyped (familyLines name help type value) := fun _ => by
  simp [familyLines, typedBefore]

theorem groupLines_selfTyped (formatFloat : ℚ → Str) (metricName : Str) (group : List MetricData) :
    SelfTyped (groupLines formatFloat metricName group) := by
  have hsamples : ∀ (ms : List MetricData) (seen : List Str), metricName ∈ seen →
      typedBefore seen (ms.map (fun m => Line.sample metricName (sortedEntries m.labels)
        (formatFloat m.value)) ++ [.blank]) = true := by
    intro ms seen hseen
    induction ms with
    | nil => rfl
    | cons m ms ih => simp [typedBefore, hseen, ih]
  cases group with
  | nil => exact fun _ => rfl
  | cons first rest =>
    exact fun seen => hsamples (first :: rest) (metricName :: seen) (List.mem_cons_self _ _)

/-- A group names its metric in one `TYPE` and one `HELP` line. -/
theorem groupLines_names (formatFloat : ℚ → Str) (metricName : Str) {group : List MetricData}
    (hne : group ≠ []) :
    (groupLines formatFloat metricName group).filterMap Line.typeName? = [metricName] ∧
      (groupLines formatFloat metricName group).filterMap Line.helpName? = [metricName] := by
  obtain ⟨first, rest, rfl⟩ := List.exists_cons_of_ne_nil hne
  constructor <;>
    simp [groupLines, List.filterMap_map, List.filterMap_eq_nil_iff, Line.typeName?,
      Line.helpName?]

theorem serviceLines_names (formatFloat : ℚ → Str) (metrics : List MetricData) :
    (serviceLines formatFloat (.ok metrics)).filterMap Line.typeName? = groupNames metrics ∧
      (serviceLines formatFloat (.ok metrics)).filterMap Line.helpName? = groupNames metrics := by
  have hne : ∀ n ∈ groupNames metrics, (metrics.filter fun m => m.name = n) ≠ [] := fun n hn => by
    obtain ⟨m, hm, rfl⟩ := mem_groupNames.mp hn
    exact List.ne_nil_of_mem (List.mem_filter.mpr ⟨hm, by simp⟩)
  simp only [serviceLines, List.filterMap_flatMap]
  constructor <;> conv_rhs => rw [← List.flatMap_singleton' (groupNames metrics)]
  exacts [List.flatMap_congr fun n hn => (groupLines_names formatFloat n (hne n hn)).1,
    List.flatMap_congr fun n hn => (groupLines_names formatFloat n (hne n hn)).2]

theorem collectorLines_names (formatRate : ℚ → Str) (received rejected stored : Nat) :
    (collectorLines formatRate received rejected stored).filterMap Line.typeName? =
        collectorNames ∧
      (collectorLines formatRate received rejected stored).filterMap Line.helpName? =
        collectorNames :=
  ⟨rfl, rfl⟩

/-- The collector's names and the groups' are distinct exactly when no metric bears one of the
collector's names. -/
theorem nodup_collectorNames_append_iff (metrics : List MetricData) :
    (collectorNames ++ groupNames metrics).Nodup ↔ ∀ m ∈ metrics, m.name ∉ collectorNames := by
  rw [List.nodup_append]
  constructor
  · rintro ⟨-, -, hdis⟩ m hm hmc
    exact hdis hmc (mem_groupNames.mpr ⟨m, hm, rfl⟩)
  · intro h
    refine ⟨by decide, nodup_groupNames metrics, fun a ha hb => ?_⟩
    obtain ⟨m, hm, rfl⟩ := mem_groupNames.mp hb
    exact h m hm ha

/-! ### The scrape -/

/-- **The service section reads back.** When every metric the storage returned has a metric
name and label-name keys, and `%f` prints one word, the text `writeServiceMetrics` writes
reads back, line by line, as one group per distinct name in sorted order (its `HELP` line,
its `TYPE` line and one sample per metric of the name, in the order the storage returned
them), followed by the empty line after the last newline; and the samples read back are
exactly the metrics, each once, with its name, its labels in sorted key order and its
printed value. -/
theorem exposition_roundtrip (formatFloat : ℚ → Str) (metrics : List MetricData)
    (hfloat : ∀ q, isToken (formatFloat q) = true)
    (hnames : ∀ m ∈ metrics, isMetricName m.name = true)
    (hkeys : ∀ m ∈ metrics, ∀ key ∈ m.labels.keys, isLabelName key = true) :
    parseExposition (writeServiceMetrics formatFloat (.ok metrics)) =
      some (serviceLines formatFloat (.ok metrics) ++ [.blank]) ∧
    ((serviceLines formatFloat (.ok metrics)).filterMap Line.sample?).Perm
      (metrics.map fun m => (m.name, sortedEntries m.labels, formatFloat m.value)) := by
  refine ⟨?_, ?_⟩
  · rw [writeServiceMetrics_eq_render]
    exact parseExposition_render _ (serviceLines_printable hfloat hnames hkeys)
  · rw [samples_serviceLines]
    refine List.Perm.map _ ((flatMap_filter_perm (nodup_groupNames metrics) metrics).trans
      (.of_eq (List.filter_eq_self.mpr fun m hm => ?_)))
    simpa using mem_groupNames.mpr ⟨m, hm, rfl⟩

/-- A `%f` that prints every value as `1.000000`. -/
def fixedFloat : ℚ → Str := fun _ => lit "1.000000"

/-- Two services' request counters and a vault error counter, as the storage returns them. -/
def requestsAndErrors : List MetricData :=
  [⟨lit "requests_total", lit "counter", .single (lit "service") (lit "entry-hub"), 3⟩,
    ⟨lit "errors_total", lit "counter", .single (lit "service") (lit "database-vault"), 1⟩,
    ⟨lit "requests_total", lit "counter", .single (lit "service") (lit "database-vault"), 5⟩]

theorem exposition_roundtrip_requests_errors :
    (∀ q, isToken (fixedFloat q) = true) ∧
    (∀ m ∈ requestsAndErrors, isMetricName m.name = true) ∧
    (∀ m ∈ requestsAndErrors, ∀ key ∈ m.labels.keys, isLabelName key = true) ∧
    (parseExposition (writeServiceMetrics fixedFloat (.ok requestsAndErrors)) =
        some (serviceLines fixedFloat (.ok requestsAndErrors) ++ [.blank]) ∧
      ((serviceLines fixedFloat (.ok requestsAndErrors)).filterMap Line.sample?).Perm
        (requestsAndErrors.map fun m => (m.name, sortedEntries m.labels, fixedFloat m.value))) :=
  ⟨fun _ => rfl, by decide, by decide,
    exposition_roundtrip fixedFloat requestsAndErrors (fun _ => rfl) (by decide) (by decide)⟩

/-- `validateMetric` reserves none of the collector's names: it reads a name only through its
length, and every collector name is of an admitted length. -/
theorem validateMetric_collectorName {m : Metric} (hm : validateMetric m = .ok ()) {n : Str}
    (hn : n ∈ collectorNames) : validateMetric { m with name := n } = .ok () := by
  have hlength : ∀ n ∈ collectorNames, 0 < n.length ∧ n.length ≤ maxMetricNameLength := by decide
  obtain ⟨-, hkeys, hsize, hkey, hvalue, hsensitive, htype⟩ := (validateMetric_eq_ok_iff m).mp hm
  exact (validateMetric_eq_ok_iff _).mpr
    ⟨hlength n hn, hkeys, hsize, hkey, hvalue, hsensitive, htype⟩

/-- **A scrape is well formed exactly when no service borrows a collector name.** For every
statistics snapshot, and every list of recent metrics with metric names and label-name keys,
when `%f` and `%.2f` print one word, a `GET` answers `200` with a body that reads back line
by line, and the lines obey the text format's rules (at most one `TYPE` and one `HELP` line
per name, a name's `TYPE` line before its samples) if and only if no metric bears one of the
names of the collector's own five families. `validateMetric` does not reserve those names:
it admits a metric under each of them whenever it admits it under some name. -/
theorem scrape_wellFormed_iff (formatRate formatFloat : ℚ → Str) (stats : Nat × Nat × Nat)
    (metrics : List MetricData) (hrate : ∀ q, isToken (formatRate q) = true)
    (hfloat : ∀ q, isToken (formatFloat q) = true)
    (hnames : ∀ m ∈ metrics, isMetricName m.name = true)
    (hkeys : ∀ m ∈ metrics, ∀ key ∈ m.labels.keys, isLabelName key = true) :
    (prometheusHandler formatRate formatFloat (lit "GET") stats (.ok metrics)).1 = 200 ∧
    (∃ lines, parseExposition
        (prometheusHandler formatRate formatFloat (lit "GET") stats (.ok metrics)).2 = some lines ∧
      (WellFormed lines ↔ ∀ m ∈ metrics, m.name ∉ collectorNames)) ∧
    ∀ m : Metric, validateMetric m = .ok () → ∀ n ∈ collectorNames,
      validateMetric { m with name := n } = .ok () := by
  refine ⟨rfl, ?_, fun _ hm _ hn => validateMetric_collectorName hm hn⟩
  obtain ⟨received, rejected, stored⟩ := stats
  have hbody : (prometheusHandler formatRate formatFloat (lit "GET") (received, rejected, stored)
      (.ok metrics)).2 = render (collectorLines formatRate received rejected stored ++
        serviceLines formatFloat (.ok metrics)) := by
    rw [render_append, ← writeCollectorMetrics_eq_render, ← writeServiceMetrics_eq_render]
    rfl
  have hprint : ∀ l ∈ collectorLines formatRate received rejected stored ++
      serviceLines formatFloat (.ok metrics), l.printable = true := fun l hl =>
    (List.mem_append.mp hl).elim (collectorLines_printable hrate _ _ _ l)
      (serviceLines_printable hfloat hnames hkeys l)
  have htyped : SelfTyped (collectorLines formatRate received rejected stored ++
      serviceLines formatFloat (.ok metrics) ++ [.blank]) :=
    ((SelfTyped.flatMap _ fun _ _ => familyLines_selfTyped _ _ _ _).append
      (SelfTyped.flatMap _ fun _ _ => groupLines_selfTyped _ _ _)).append fun _ => rfl
  refine ⟨_, hbody ▸ parseExposition_render _ hprint, ?_⟩
  have hnames' := serviceLines_names formatFloat metrics
  have hcoll := collectorLines_names formatRate received rejected stored
  simp only [WellFormed, htyped [], and_true, List.filterMap_append, hnames'.1, hnames'.2,
    hcoll.1, hcoll.2, List.filterMap_cons, Line.typeName?, Line.helpName?, List.filterMap_nil,
    List.append_nil, and_self, nodup_collectorNames_append_iff]

/-- An Entry-Hub counter as published, before it is renamed. -/
def requestsMetric : Metric :=
  ⟨lit "entry-hub", 1700000000, lit "requests_total", 7, .empty, lit "counter"⟩

/-- The same counter published under the name of the collector's stored count. -/
def impostorPublished : Metric := { requestsMetric with name := lit "ramusb_metrics_stored_total" }

/-- The row the collector keeps for the impostor. -/
def impostorMetric : MetricData := .ofMetric impostorPublished

theorem scrape_impostor_not_wellFormed :
    isToken (lit "0.00") = true ∧ isToken (fixedFloat 0) = true ∧
    validateMetric requestsMetric = .ok () ∧ validateMetric impostorPublished = .ok () ∧
    isMetricName impostorMetric.name = true ∧
    (prometheusHandler (fun _ => lit "0.00") fixedFloat (lit "GET") (1, 0, 1)
      (.ok [impostorMetric])).1 = 200 ∧
    ∃ lines, parseExposition (prometheusHandler (fun _ => lit "0.00") fixedFloat (lit "GET")
        (1, 0, 1) (.ok [impostorMetric])).2 = some lines ∧ ¬ WellFormed lines := by
  obtain ⟨h200, ⟨lines, hparse, hiff⟩, hreserve⟩ := scrape_wellFormed_iff (fun _ => lit "0.00")
    fixedFloat (1, 0, 1) [impostorMetric] (fun _ => rfl) (fun _ => rfl) (by decide) (by decide)
  have hadmit : validateMetric requestsMetric = .ok () := rfl
  exact ⟨by decide, by decide, hadmit, hreserve _ hadmit _ (by decide), by decide, h200, lines,
    hparse, fun hwf => hiff.mp hwf impostorMetric (List.mem_singleton_self _) (by decide)⟩

end RamUsb.Collector
