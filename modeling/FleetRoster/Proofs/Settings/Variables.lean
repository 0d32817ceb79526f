import FleetRoster.Proofs.Settings.Values

/-!
# Which variables give settings

The variables give settings if every one of them that is set says a value of its kind, and these
settings are read unless a size is zero. Otherwise the first variable in their order is blamed that
says none, or the first size that is zero if all of them say one.
-/

namespace FleetRoster.Settings

/-! ## Variables -/

/-- A variable, with the field of the settings that it gives. -/
structure Variable where
  name : String
  kind : Kind
  field : Settings → kind.Value

namespace Variable

def bufferSize : Variable := ⟨"EVENT_BUFFER_SIZE", .word, Settings.bufferSize⟩

def batchSize : Variable := ⟨"EVAL_BATCH_SIZE", .word, Settings.batchSize⟩

def idleInterval : Variable := ⟨"UPLOAD_EVAL_TIMEOUT_MS", .word, Settings.idleInterval⟩

def deletionThreshold : Variable :=
  ⟨"DELETION_THRESHOLD_SECS", .word, Settings.deletionThreshold⟩

def readTimeout : Variable := ⟨"KAFKA_READ_TIMEOUT_MS", .word, Settings.readTimeout⟩

def retries : Variable := ⟨"HANDLER_RETRIES", .halfWord, Settings.retries⟩

def retryDelay : Variable := ⟨"HANDLER_RETRY_DELAY_MS", .word, Settings.retryDelay⟩

def evaluationRequests : Variable :=
  ⟨"ENABLE_EVALUATION_REQUESTS", .boolean, Settings.evaluationRequests⟩

def logLevel : Variable := ⟨"LOG_LEVEL", .level, Settings.logLevel⟩

/-- What a variable gives: the value that its text says, or the default where it is not set. -/
def Gives (v : Variable) (lookup : Lookup) (x : v.kind.Value) : Prop :=
  match lookup v.name with
  | none => x = v.field {}
  | some text => v.kind.Says text x

/-- A variable is not set, or its text says a value. -/
def IsReadable (v : Variable) (lookup : Lookup) : Prop :=
  ∀ text, lookup v.name = some text → ∃ x, v.kind.Says text x

end Variable

/-- The variables in the order in which they are read. -/
def Variable.all : List Variable :=
  [.bufferSize, .batchSize, .idleInterval, .deletionThreshold, .readTimeout, .retries, .retryDelay,
    .evaluationRequests, .logLevel]

/-- The variables that are taken as they are, with the fields that they give. -/
def topics : List (String × (Settings → String)) :=
  [("UPLOAD_TOPIC", uploadTopic), ("EVENTS_TOPIC", eventsTopic), ("EVAL_TOPIC", evaluationTopic),
    ("PAYLOAD_TRACKER_TOPIC", auditTopic)]

/-- The settings that variables give. -/
structure Gives (lookup : Lookup) (s : Settings) : Prop where
  values : ∀ v ∈ Variable.all, v.Gives lookup (v.field s)
  topics : ∀ t ∈ topics, t.2 s = (lookup t.1).getD (t.2 {})

/-- No size is zero. -/
def Sized (s : Settings) : Prop :=
  ∀ size ∈ s.sizes, size.2 ≠ 0

/-- Of some variables in a row, the first one that is set but says no value is blamed, with its text
as it is and with what is wrong about the text without its blanks. -/
inductive Blames (lookup : Lookup) (vs : List Variable) : ReadError → Prop
  | unreadable {before after : List Variable} {v : Variable} {text : String} {why : ValueError}
      (cut : vs = before ++ v :: after) (first : ∀ u ∈ before, u.IsReadable lookup)
      (isSet : lookup v.name = some text) (noValue : ∀ x, ¬ v.kind.Says text x)
      (wrong : v.kind.read (Text.trim text) = .error why) :
      Blames lookup vs (.unreadable v.name text why)

/-- The first size that is zero is blamed. -/
inductive BlamesSize (s : Settings) : ReadError → Prop
  | zero {before after : List (String × Nat)} {name : String}
      (cut : s.sizes = before ++ (name, 0) :: after) (first : ∀ size ∈ before, size.2 ≠ 0) :
      BlamesSize s (.zero name)

/-- How settings are read. -/
structure ReadInOrder (lookup : Lookup) : Prop where
  /-- The settings that are read are those that the variables give, and no size is zero. -/
  read {s : Settings} : read lookup = .ok s ↔ Gives lookup s ∧ s.Sized
  /-- Some are read exactly if every variable is not set or says a value, and no size is zero. -/
  accepted : (∃ s, Settings.read lookup = .ok s) ↔
    (∀ v ∈ Variable.all, v.IsReadable lookup) ∧ ∀ s, Gives lookup s → s.Sized
  /-- Otherwise the first variable is blamed that is set but says no value, or the first size that
  is zero if there is no such variable. -/
  refused {fault : ReadError} : Settings.read lookup = .error fault ↔
    Blames lookup Variable.all fault ∨ ∃ s, Gives lookup s ∧ s.BlamesSize fault
  /-- The sizes are what the first three variables give. -/
  sizes (s : Settings) : s.sizes =
    [(Variable.bufferSize.name, s.bufferSize), (Variable.batchSize.name, s.batchSize),
      (Variable.idleInterval.name, s.idleInterval)]

/-! ## Faults and values -/

namespace Variable

/-- Why a variable is blamed, if it is. -/
def fault? (v : Variable) (lookup : Lookup) : Option ReadError :=
  match lookup v.name with
  | none => none
  | some text =>
    match v.kind.read (Text.trim text) with
    | .ok _ => none
    | .error why => some (.unreadable v.name text why)

/-- The value of a variable, or the default where it has none. -/
def value (v : Variable) (lookup : Lookup) : v.kind.Value :=
  match lookup v.name with
  | none => v.field {}
  | some text =>
    match v.kind.read (Text.trim text) with
    | .ok x => x
    | .error _ => v.field {}

variable {v : Variable} {lookup : Lookup}

theorem gives_iff {x : v.kind.Value} :
    v.Gives lookup x ↔ v.fault? lookup = none ∧ x = v.value lookup := by
  unfold Gives fault? value
  cases lookup v.name with
  | none => simp
  | some text =>
      dsimp only
      rw [← Kind.read_trim_eq_ok_iff]
      cases v.kind.read (Text.trim text) <;> simp [eq_comm]

theorem fault?_eq_none_iff : v.fault? lookup = none ↔ v.IsReadable lookup := by
  unfold fault? IsReadable
  cases lookup v.name with
  | none => simp
  | some text =>
      simp only [Option.some.injEq, forall_eq', ← Kind.read_trim_eq_ok_iff]
      cases v.kind.read (Text.trim text) <;> simp

theorem fault?_eq_some_iff {fault : ReadError} : v.fault? lookup = some fault ↔
    ∃ text why, fault = .unreadable v.name text why ∧ lookup v.name = some text ∧
      (∀ x, ¬ v.kind.Says text x) ∧ v.kind.read (Text.trim text) = .error why := by
  constructor
  · intro blamed
    unfold fault? at blamed
    split at blamed
    next => contradiction
    next text isSet =>
      split at blamed
      next => contradiction
      next why unread =>
        cases blamed
        refine ⟨text, why, rfl, isSet, fun x said => ?_, unread⟩
        cases unread.symm.trans (Kind.read_trim_eq_ok_iff.mpr said)
  · rintro ⟨text, why, rfl, isSet, -, unread⟩
    rw [fault?, isSet]
    dsimp only
    rw [unread]

end Variable

/-! ## Reading one variable after another -/

/-- The fault if there is one, or else what comes next. -/
def blameOr {α : Type} : Option ReadError → Except ReadError α → Except ReadError α
  | some fault, _ => .error fault
  | none, next => next

/-- The first fault of variables, if there is one. -/
def firstFault? (lookup : Lookup) (vs : List Variable) : Option ReadError :=
  vs.findSome? (·.fault? lookup)

/-- A variable is read, and then the others are. -/
theorem readOr_bind_eq {α : Type} {lookup : Lookup} (v : Variable) {vs : List Variable}
    {next : v.kind.Value → Except ReadError α} {last : Except ReadError α}
    (rest : next (v.value lookup) = blameOr (firstFault? lookup vs) last) :
    readOr lookup v.name v.kind.read (v.field {}) >>= next =
      blameOr (firstFault? lookup (v :: vs)) last := by
  rw [firstFault?, List.findSome?_cons]
  unfold readOr Variable.value at *
  unfold Variable.fault?
  cases isSet : lookup v.name with
  | none =>
      rw [isSet] at rest
      exact rest
  | some text =>
      rw [isSet] at rest
      dsimp only at rest ⊢
      cases read : v.kind.read (Text.trim text) with
      | ok x =>
          rw [read] at rest
          exact rest
      | error why => rfl

/-- The settings of what the variables hold, and of the defaults where they hold nothing. -/
def given (lookup : Lookup) : Settings where
  uploadTopic := (lookup "UPLOAD_TOPIC").getD (uploadTopic {})
  eventsTopic := (lookup "EVENTS_TOPIC").getD (eventsTopic {})
  evaluationTopic := (lookup "EVAL_TOPIC").getD (evaluationTopic {})
  auditTopic := (lookup "PAYLOAD_TRACKER_TOPIC").getD (auditTopic {})
  bufferSize := Variable.bufferSize.value lookup
  batchSize := Variable.batchSize.value lookup
  idleInterval := Variable.idleInterval.value lookup
  deletionThreshold := Variable.deletionThreshold.value lookup
  readTimeout := Variable.readTimeout.value lookup
  retries := Variable.retries.value lookup
  retryDelay := Variable.retryDelay.value lookup
  evaluationRequests := Variable.evaluationRequests.value lookup
  logLevel := Variable.logLevel.value lookup

/-- All variables are read before anything is checked. -/
theorem read_eq (lookup : Lookup) :
    read lookup = blameOr (firstFault? lookup Variable.all) (check (given lookup)) := by
  unfold read
  exact readOr_bind_eq .bufferSize <| readOr_bind_eq .batchSize <| readOr_bind_eq .idleInterval <|
    readOr_bind_eq .deletionThreshold <| readOr_bind_eq .readTimeout <| readOr_bind_eq .retries <|
      readOr_bind_eq .retryDelay <| readOr_bind_eq .evaluationRequests <|
        readOr_bind_eq .logLevel rfl

/-! ## The settings that variables give -/

section

variable {lookup : Lookup} {s : Settings}

/-- Settings have no other fields than those of the variables and the topics. -/
theorem eq_of_fields {t : Settings} (values : ∀ v ∈ Variable.all, v.field s = v.field t)
    (texts : ∀ topic ∈ topics, topic.2 s = topic.2 t) : s = t := by
  simp only [Variable.all, topics, List.forall_mem_cons] at values texts
  obtain ⟨bufferSize, batchSize, idleInterval, deletionThreshold, readTimeout, retries, retryDelay,
    evaluationRequests, logLevel, -⟩ := values
  obtain ⟨uploadTopic, eventsTopic, evaluationTopic, auditTopic, -⟩ := texts
  cases s
  cases t
  simp only [Settings.mk.injEq]
  exact ⟨uploadTopic, eventsTopic, evaluationTopic, auditTopic, bufferSize, batchSize, idleInterval,
    deletionThreshold, readTimeout, retries, retryDelay, evaluationRequests, logLevel⟩

theorem field_given (lookup : Lookup) :
    ∀ v ∈ Variable.all, v.field (given lookup) = v.value lookup := by
  simp only [Variable.all, List.forall_mem_cons]
  exact ⟨rfl, rfl, rfl, rfl, rfl, rfl, rfl, rfl, rfl, nofun⟩

theorem topic_given (lookup : Lookup) :
    ∀ t ∈ topics, t.2 (given lookup) = (lookup t.1).getD (t.2 {}) := by
  simp only [topics, List.forall_mem_cons]
  exact ⟨rfl, rfl, rfl, rfl, nofun⟩

theorem gives_given (readable : ∀ v ∈ Variable.all, v.IsReadable lookup) :
    Gives lookup (given lookup) where
  values v mem := Variable.gives_iff.mpr
    ⟨Variable.fault?_eq_none_iff.mpr (readable v mem), field_given lookup v mem⟩
  topics := topic_given lookup

namespace Gives

variable (gives : Gives lookup s)

include gives

theorem isReadable : ∀ v ∈ Variable.all, v.IsReadable lookup := fun v mem =>
  Variable.fault?_eq_none_iff.mp (Variable.gives_iff.mp (gives.values v mem)).1

/-- Variables give no other settings than those of what they hold. -/
theorem eq_given : s = given lookup := by
  apply eq_of_fields
  · intro v mem
    rw [(Variable.gives_iff.mp (gives.values v mem)).2, field_given lookup v mem]
  · intro t mem
    rw [gives.topics t mem, topic_given lookup t mem]

end Gives

theorem firstFault?_eq_none_iff {vs : List Variable} :
    firstFault? lookup vs = none ↔ ∀ v ∈ vs, v.IsReadable lookup := by
  simp only [firstFault?, List.findSome?_eq_none_iff, Variable.fault?_eq_none_iff]

/-! ## Sizes -/

theorem check_eq_ok_iff {t : Settings} : check s = .ok t ↔ s = t ∧ s.Sized := by
  constructor
  · intro passed
    unfold check at passed
    split at passed
    next => contradiction
    next none =>
      cases passed
      exact ⟨rfl, fun size mem zero => List.find?_eq_none.mp none size mem (beq_iff_eq.mpr zero)⟩
  · rintro ⟨rfl, sized⟩
    have none : s.sizes.find? (fun size => size.2 == 0) = none := by
      rw [List.find?_eq_none]
      exact fun size mem zero => sized size mem (beq_iff_eq.mp zero)
    rw [check, none]

theorem check_eq_error_iff {fault : ReadError} : check s = .error fault ↔ s.BlamesSize fault := by
  have first {size : String × Nat} : s.sizes.find? (fun size => size.2 == 0) = some size ↔
      size.2 = 0 ∧ ∃ before after, s.sizes = before ++ size :: after ∧
        ∀ size ∈ before, size.2 ≠ 0 := by
    simp [List.find?_eq_some_iff_append]
  constructor
  · intro refused
    unfold check at refused
    split at refused
    next size found =>
      cases refused
      obtain ⟨name, n⟩ := size
      obtain ⟨rfl, before, after, cut, others⟩ := first.mp found
      exact .zero cut others
    next => contradiction
  · rintro ⟨cut, others⟩
    rw [check, first.mpr ⟨rfl, _, _, cut, others⟩]

/-! ## Reading -/

theorem firstFault?_eq_some_iff {fault : ReadError} {vs : List Variable} :
    firstFault? lookup vs = some fault ↔ Blames lookup vs fault := by
  simp only [firstFault?, List.findSome?_eq_some_iff, Variable.fault?_eq_none_iff,
    Variable.fault?_eq_some_iff]
  constructor
  · rintro ⟨before, v, after, cut, ⟨text, why, rfl, isSet, noValue, wrong⟩, first⟩
    exact .unreadable cut first isSet noValue wrong
  · rintro ⟨cut, first, isSet, noValue, wrong⟩
    exact ⟨_, _, _, cut, ⟨_, _, rfl, isSet, noValue, wrong⟩, first⟩

theorem read_of_readable (readable : ∀ v ∈ Variable.all, v.IsReadable lookup) :
    read lookup = check (given lookup) := by
  rw [read_eq, firstFault?_eq_none_iff.mpr readable]
  rfl

theorem read_of_fault {fault : ReadError} (blamed : firstFault? lookup Variable.all = some fault) :
    read lookup = .error fault := by
  rw [read_eq, blamed]
  rfl

theorem read_eq_ok_iff : read lookup = .ok s ↔ Gives lookup s ∧ s.Sized := by
  constructor
  · intro done
    cases faulty : firstFault? lookup Variable.all with
    | some fault => cases (read_of_fault faulty).symm.trans done
    | none =>
        have readable := firstFault?_eq_none_iff.mp faulty
        rw [read_of_readable readable, check_eq_ok_iff] at done
        obtain ⟨rfl, sized⟩ := done
        exact ⟨gives_given readable, sized⟩
  · rintro ⟨gives, sized⟩
    rw [read_of_readable gives.isReadable, check_eq_ok_iff, ← gives.eq_given]
    exact ⟨rfl, sized⟩

theorem exists_read_iff : (∃ s, read lookup = .ok s) ↔
    (∀ v ∈ Variable.all, v.IsReadable lookup) ∧ ∀ s, Gives lookup s → s.Sized := by
  constructor
  · rintro ⟨s, done⟩
    obtain ⟨gives, sized⟩ := read_eq_ok_iff.mp done
    refine ⟨gives.isReadable, fun t alsoGives => ?_⟩
    rwa [alsoGives.eq_given, ← gives.eq_given]
  · rintro ⟨readable, sized⟩
    have gives := gives_given readable
    exact ⟨_, read_eq_ok_iff.mpr ⟨gives, sized _ gives⟩⟩

theorem read_eq_error_iff {fault : ReadError} : read lookup = .error fault ↔
    Blames lookup Variable.all fault ∨ ∃ s, Gives lookup s ∧ s.BlamesSize fault := by
  constructor
  · intro refused
    cases faulty : firstFault? lookup Variable.all with
    | some other =>
        cases (read_of_fault faulty).symm.trans refused
        exact .inl (firstFault?_eq_some_iff.mp faulty)
    | none =>
        have readable := firstFault?_eq_none_iff.mp faulty
        rw [read_of_readable readable, check_eq_error_iff] at refused
        exact .inr ⟨_, gives_given readable, refused⟩
  · rintro (blames | ⟨s, gives, blames⟩)
    · exact read_of_fault (firstFault?_eq_some_iff.mpr blames)
    · rw [read_of_readable gives.isReadable, check_eq_error_iff, ← gives.eq_given]
      exact blames

end

/-- Every lookup is read as its variables say, and the first fault is blamed. -/
theorem read_in_order (lookup : Lookup) : ReadInOrder lookup where
  read := read_eq_ok_iff
  accepted := exists_read_iff
  refused := read_eq_error_iff
  sizes _ := rfl

/-- Where nothing is set, the defaults are read. -/
example : read (fun _ => none) = .ok {} := by
  decide

/-- A number of thirty-three bits is blamed rather than the zero before it or the name behind it. -/
example : read (fun name => List.lookup name [("EVENT_BUFFER_SIZE", " +00 "),
    ("HANDLER_RETRIES", " 4294967296"), ("LOG_LEVEL", "loud")]) =
      .error (.unreadable "HANDLER_RETRIES" " 4294967296" .tooLarge) := by
  decide +kernel

end FleetRoster.Settings
