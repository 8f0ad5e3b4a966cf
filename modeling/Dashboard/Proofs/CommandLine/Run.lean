import Dashboard.CommandLine.Run
import Dashboard.Proofs.Content
import Dashboard.Proofs.Request.Query
import Dashboard.Proofs.Sample
import Dashboard.Proofs.Widget.Registry

/-! Flags of the command line and edits of the request: where a flag says what the file could have said itself. -/

namespace Dashboard

namespace CommandLine.Aggregation

/-- An aggregation without flags for the widget, the options and the quantity. -/
def unflagged (aggregation : Aggregation) : Aggregation :=
  { aggregation with widget := none, options := [], quantity := none }

/-- A request is edited to the flags of an aggregation when it says by itself what they say: the widget, the quantity,
and for each option that is assigned the last of its values alone. -/
structure Edits (aggregation : Aggregation) (assignments : List (String × String)) (request edited : Request) :
    Prop where
  widget : edited.widget = aggregation.widget.getD request.widget
  quantity : edited.quantity = aggregation.quantity.or request.quantity
  options : ∀ k, edited.options.get? k = ((assignments.reverse.lookup k).map ([·])).or (request.options.get? k)
  records : edited.records = request.records
  contentFields : edited.contentFields = request.contentFields
  metadataFields : edited.metadataFields = request.metadataFields
  sort : edited.sort = request.sort
  referenceLaunch : edited.referenceLaunch = request.referenceLaunch

/-- The options of a request with some of them assigned anew. -/
def assign (assignments : List (String × String)) (options : Table (List String)) : Table (List String) :=
  assignments.foldl (fun options (key, value) => options.insert key [value]) options

/-- Of several assignments to one option the last one counts. -/
theorem get?_assign (assignments : List (String × String)) (options : Table (List String)) (k : String) :
    (assign assignments options).get? k = ((assignments.reverse.lookup k).map ([·])).or (options.get? k) := by
  -- Assigning a value is inserting the list of it alone.
  have inserted := Table.get?_foldl_insert (assignments.map (Prod.map id ([·]))) options k
  rw [List.foldl_map, ← List.map_reverse, Table.lookup_map_value] at inserted
  exact inserted

/-- Flags for options are assignments. -/
theorem foldlM_override {raws : List String} {assignments : List (String × String)}
    (assigned : raws.mapM parseAssignment = .ok assignments) (request : Request) :
    raws.foldlM override request = .ok { request with options := assign assignments request.options } := by
  -- Induction on the flags; each of them assigns one option, and the others go on from there.
  induction raws generalizing assignments request with
  | nil =>
    cases assigned
    rfl
  | cons raw rest ih =>
    rw [List.mapM_cons] at assigned
    cases first : parseAssignment raw with
    | error failure => simp [first, Bind.bind, Except.bind] at assigned
    | ok assignment =>
      -- The flag that is read must be followed by flags that are read, too.
      cases others : rest.mapM parseAssignment with
      | error failure => simp [first, others, Bind.bind, Except.bind] at assigned
      | ok further =>
        simp only [first, others, Bind.bind, Except.bind, Pure.pure, Except.pure, Except.ok.injEq] at assigned
        subst assigned
        -- Nothing but the options of the request is changed by the flag.
        have head : override request raw =
            .ok { request with options := request.options.insert assignment.1 [assignment.2] } := by
          simp only [override, first, Bind.bind, Except.bind, Pure.pure, Except.pure]
        rw [List.foldlM_cons, head]
        exact ih others _

/-- An edited request is the original one with the edits made in it. -/
theorem Edits.eq {aggregation : Aggregation} {assignments : List (String × String)} {request edited : Request}
    (edits : Edits aggregation assignments request edited) : edited = { request with
      widget := aggregation.widget.getD request.widget
      quantity := aggregation.quantity.or request.quantity
      options := assign assignments request.options } := by
  -- Two tables that hold the same are the same, so the options are those with the assignments made in them.
  obtain ⟨widget, quantity, options, records, contentFields, metadataFields, sort, referenceLaunch⟩ := edits
  have options : edited.options = assign assignments request.options :=
    Table.eq_of_get? fun k => (options k).trans (get?_assign assignments request.options k).symm
  cases edited
  simp_all

/-- The quantity of the command line asks for no records that the file's own quantity cuts off. -/
def WithinOwn (flag own : Option UInt64) (records : List Record) : Prop :=
  ∀ n m, flag = some n → own = some m → n ≤ m ∨ records.length ≤ m.toNat

/-- Cutting by the own quantity first makes no difference exactly where it cuts nothing off that is asked for. -/
theorem limit_limit_eq_iff (flag own : Option UInt64) (records : List Record) :
    Record.limit (flag.or own) (Record.limit own records) =
      Record.limit (flag.or own) (Record.limit (flag.or own) records) ↔ WithinOwn flag own records := by
  unfold WithinOwn
  cases flag with
  | none => simp
  | some n =>
    cases own with
    -- Without a quantity in the file the first cut cuts nothing.
    | none => simp [Record.limit, List.take_take]
    | some m =>
      -- Two cuts are one cut at the smaller of the quantities.
      simp only [Option.some_or, Record.limit, List.take_take, List.take_eq_take_iff, Option.some.injEq,
        UInt64.le_iff_toNat_le]
      constructor
      · rintro same _ _ rfl rfl
        omega
      · intro within
        have := within n m rfl rfl
        omega

section

variable {aggregation : Aggregation} {around edited : Surroundings} {held : RequestFile} {request wanted : Request}
variable {assignments : List (String × String)}
variable (readable : RequestFile.parse aggregation.input (around.look aggregation.input) = .ok held)
variable (accepted : held.toRequest aggregation.input aggregation.widget = .ok request)
variable (assigned : aggregation.options.mapM parseAssignment = .ok assignments)

include readable accepted assigned in
/-- Flags change what a request says but not its records, which are cut to the file's own quantity before. -/
theorem request_eq_ok : aggregation.request around = .ok { request with
    widget := aggregation.widget.getD request.widget
    quantity := aggregation.quantity.or request.quantity
    options := assign assignments request.options
    records := request.fetched } := by
  -- The file is loaded with its records cut, and the flags come behind that.
  have loaded := RequestFile.load_eq_ok readable accepted
  simp only [Aggregation.request, loaded, Bind.bind, Except.bind]
  exact foldlM_override assigned _

variable (rewritten : RequestFile.parse aggregation.input (edited.look aggregation.input) = .ok (.whole wanted))
variable (edits : Edits aggregation assignments request wanted)
include readable accepted assigned rewritten edits

/-- Flags act like edits of the request exactly as long as they ask for no records beyond the file's own quantity: then
the considered records are the same, and with them the content or the failure, and the whole reply. -/
theorem request_flags : ∃ flagged loaded,
    aggregation.request around = .ok flagged ∧ aggregation.unflagged.request edited = .ok loaded ∧
    (flagged.limitedRecords = loaded.limitedRecords ↔
      WithinOwn aggregation.quantity request.quantity request.records) ∧
    (WithinOwn aggregation.quantity request.quantity request.records → ∀ config,
      Registry.standard.dispatch flagged config = Registry.standard.dispatch loaded config ∧
      (edited.now = around.now → aggregation.reply around config = aggregation.unflagged.reply edited config)) := by
  -- Both requests are the edited one, with the records cut once by either quantity.
  have flagged : aggregation.request around = .ok { wanted with records := request.fetched } := by
    rw [edits.eq]
    exact request_eq_ok readable accepted assigned
  -- The edited file has no flags to apply, so that it is cut by the quantity that the flag gave.
  have loaded : aggregation.unflagged.request edited = .ok { wanted with records := wanted.fetched } :=
    @request_eq_ok aggregation.unflagged edited (.whole wanted) wanted [] rewritten rfl rfl
  have considered : { wanted with records := request.fetched }.limitedRecords =
      { wanted with records := wanted.fetched }.limitedRecords ↔
        WithinOwn aggregation.quantity request.quantity request.records := by
    have cut := limit_limit_eq_iff aggregation.quantity request.quantity (Record.sortBy request.sort request.records)
    unfold WithinOwn at cut ⊢
    rw [Record.length_sortBy] at cut
    rw [← cut]
    simp only [Request.limitedRecords_eq, Request.fetched, edits.quantity, edits.sort, edits.records]
  -- The same records give the same reply, as nothing else differs between the two requests but what is not read.
  refine ⟨_, _, flagged, loaded, considered, fun within config => ?_⟩
  have same := Registry.dispatch_congr (considered.2 within) config
  refine ⟨same, fun now => ?_⟩
  simp only [reply, flagged, loaded, same, now, Bind.bind, Except.bind]
  rfl

end

/-- Launches of two days without counters, the newer one first. -/
def leapLaunches : List Record :=
  [Sample.run "1" "Smoke" (Sample.midnight Sample.leapDay), Sample.run "0" "Smoke" (Sample.midnight Sample.leapEve)]

/-- A request for the launches of two days, up to a quantity. -/
def leapRequest (quantity : UInt64) : Request :=
  { widget := "not_passed", quantity, records := leapLaunches }

/-- The launches of the two days are fetched in the order of the file, up to the quantity. -/
theorem fetched_leapRequest (quantity : UInt64) :
    (leapRequest quantity).fetched = leapLaunches.take quantity.toNat := by
  have newestFirst : leapLaunches.Pairwise fun a b => decide (b.start ≤ a.start) = true := by decide
  have ordered : Record.sortBy {} leapLaunches = leapLaunches := List.mergeSort_of_pairwise newestFirst
  exact congrArg (List.take quantity.toNat) ordered

/-- Surroundings in which every file holds the request for the launches of two days, written as an array. -/
def leapFiles (quantity : String) : Surroundings where
  projectPath := none
  userConfigPath := none
  look _ := .text ("[\"not_passed\",[[\"1\",\"Smoke\",null,\"2024-02-29T00:00:00Z\"]," ++
    "[\"0\",\"Smoke\",null,\"2024-02-28T00:00:00Z\"]]," ++ quantity ++ "]")
  now := Sample.midnight Sample.leapDay

/-- An aggregation of the file with another quantity than its own. -/
def leapAggregation (quantity : UInt64) : Aggregation where
  input := "in.json"
  widget := none
  options := []
  quantity := some quantity
  format := .json
  output := none

/-- The two files hold the requests for one and for two launches. -/
theorem parse_leapFiles : RequestFile.parse "in.json" ((leapFiles "1").look "in.json") = .ok (.whole (leapRequest 1)) ∧
    RequestFile.parse "in.json" ((leapFiles "2").look "in.json") = .ok (.whole (leapRequest 2)) := by
  decide +kernel

/-- The requests for the two days differ in their quantity only. -/
theorem edits_leapRequest (own flag : UInt64) :
    (leapAggregation flag).Edits [] (leapRequest own) (leapRequest flag) := by
  constructor <;> intros <;> rfl

/-- A smaller quantity on the command line acts like an edit of the file. -/
theorem request_flags_leapFiles : ∃ flagged loaded,
    (leapAggregation 1).request (leapFiles "2") = .ok flagged ∧
    (leapAggregation 1).unflagged.request (leapFiles "1") = .ok loaded ∧
    flagged.limitedRecords = loaded.limitedRecords ∧
    (leapAggregation 1).reply (leapFiles "2") {} = (leapAggregation 1).unflagged.reply (leapFiles "1") {} := by
  -- The file with one quantity and the file with the other hold the same request otherwise.
  obtain ⟨flagged, loaded, builtFlagged, builtLoaded, considered, agree⟩ :=
    @request_flags (leapAggregation 1) (leapFiles "2") (leapFiles "1") (.whole (leapRequest 2)) (leapRequest 2)
      (leapRequest 1) [] parse_leapFiles.2 rfl rfl parse_leapFiles.1 (edits_leapRequest 2 1)
  have within : WithinOwn (leapAggregation 1).quantity (leapRequest 2).quantity (leapRequest 2).records := by
    rintro _ _ ⟨⟩ ⟨⟩
    decide
  exact ⟨flagged, loaded, builtFlagged, builtLoaded, considered.2 within, (agree within {}).2 rfl⟩

/-- A greater quantity on the command line does not act like an edit of the file, whose own quantity still counts. -/
theorem request_flags_ne_edit : ∃ flagged loaded content edited,
    (leapAggregation 2).request (leapFiles "1") = .ok flagged ∧
    (leapAggregation 2).unflagged.request (leapFiles "2") = .ok loaded ∧
    Registry.standard.dispatch flagged {} = .ok content ∧ Registry.standard.dispatch loaded {} = .ok edited ∧
    content.allPoints.length = 1 ∧ edited.allPoints.length = 2 := by
  have flagged := @request_eq_ok (leapAggregation 2) (leapFiles "1") (.whole (leapRequest 1)) (leapRequest 1) []
    parse_leapFiles.1 rfl rfl
  have loaded := @request_eq_ok (leapAggregation 2).unflagged (leapFiles "2") (.whole (leapRequest 2))
    (leapRequest 2) [] parse_leapFiles.2 rfl rfl
  rw [fetched_leapRequest] at flagged loaded
  -- Both requests are answered, so that the numbers of their points can be compared.
  refine ⟨_, _, _, _, flagged, loaded, rfl, rfl, ?_, ?_⟩
  · decide
  · decide

end CommandLine.Aggregation
end Dashboard
