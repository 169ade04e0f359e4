import PoolArbiter.Configuration.Override
import PoolArbiter.Proofs.Configuration.Tests
import PoolArbiter.Proofs.Printing.Assembly

/-!
# A printed configuration reads back

Every accepted configuration that can be printed is read from its document as it was, field by
field, and the only configurations that cannot be printed are those with a number that is too
large for a document. This holds for every printer and reader of documents that are faithful
(`Toml.IsFaithful`, `readsBack_of_isFaithful`); those of the project are.
-/

namespace PoolArbiter

open Toml

namespace Toml

variable {pool queues capacities adaptation thermal quality security collector :
  List (String × Scalar)}

/-- Sections in the order of a configuration document, with the one of the capacities inside
that of the queues. -/
theorem assemble?_layout (distinctPool : AreDistinct pool) (distinctQueues : AreDistinct queues)
    (distinctCapacities : AreDistinct capacities) (distinctAdaptation : AreDistinct adaptation)
    (distinctThermal : AreDistinct thermal) (distinctQuality : AreDistinct quality)
    (distinctSecurity : AreDistinct security) (distinctCollector : AreDistinct collector)
    (fresh : (fieldEntries queues).lookup "tier_capacity" = none) :
    assemble? (List.flatMap Section.lines
        [⟨["pool"], pool⟩, ⟨["queues"], queues⟩, ⟨["queues", "tier_capacity"], capacities⟩,
          ⟨["adaptation"], adaptation⟩, ⟨["thermal"], thermal⟩, ⟨["qos"], quality⟩,
          ⟨["security"], security⟩, ⟨["collector"], collector⟩]) =
      some
        [("pool", .table .header (fieldEntries pool)),
          ("queues", .table .header (fieldEntries queues ++
            [("tier_capacity", .table .header (fieldEntries capacities))])),
          ("adaptation", .table .header (fieldEntries adaptation)),
          ("thermal", .table .header (fieldEntries thermal)),
          ("qos", .table .header (fieldEntries quality)),
          ("security", .table .header (fieldEntries security)),
          ("collector", .table .header (fieldEntries collector))] := by
  have outside : IsOpen [] := fun _ member => nomatch member
  have inside : IsOpen [([("pool", .table .header (fieldEntries pool))], "queues")] := by
    intro outer member
    rw [List.mem_singleton.1 member]
    rfl
  -- At the top the table of a section is added after those before it.
  have addTop : ∀ {entries : Entries} {name : String} {fields : List (String × Scalar)}
      (current : List String), AreDistinct fields → entries.lookup name = none →
      (Section.lines ⟨[name], fields⟩).foldlM Assembly.add ⟨entries, current⟩ =
        some ⟨entries ++ [(name, .table .header (fieldEntries fields))], [name]⟩ :=
    fun current distinct fresh => add_section outside fresh distinct current
  have addCapacities :
      (Section.lines ⟨["queues", "tier_capacity"], capacities⟩).foldlM Assembly.add
          ⟨[("pool", .table .header (fieldEntries pool)),
            ("queues", .table .header (fieldEntries queues))], ["queues"]⟩ =
        some ⟨[("pool", .table .header (fieldEntries pool)),
          ("queues", .table .header (fieldEntries queues ++
            [("tier_capacity", .table .header (fieldEntries capacities))]))],
          ["queues", "tier_capacity"]⟩ :=
    add_section inside fresh distinctCapacities ["queues"]
  simp only [assemble?, List.flatMap_cons, List.flatMap_nil, List.append_nil, List.foldlM_append,
    Option.bind_eq_bind]
  rw [addTop [] distinctPool rfl, Option.bind_some, addTop _ distinctQueues rfl, Option.bind_some,
    List.nil_append, List.singleton_append, addCapacities, Option.bind_some,
    addTop _ distinctAdaptation rfl, Option.bind_some, addTop _ distinctThermal rfl,
    Option.bind_some, addTop _ distinctQuality rfl, Option.bind_some,
    addTop _ distinctSecurity rfl, Option.bind_some, addTop _ distinctCollector rfl]
  rfl

/-- What is asked of a printer and a reader of documents: sections that can be printed are read
as the tables that they describe, with every value as it was, and only a number that is too large
keeps them from being printed. -/
structure IsFaithful (write? : List Section → Option (List Char))
    (read? : String → Option Entries) : Prop where
  reads : ∀ {sections text}, (∀ section_ ∈ sections, section_.IsNamed) →
    write? sections = some text →
      read? (String.ofList text) = assemble? (sections.flatMap Section.lines)
  fails : ∀ {sections}, write? sections = none ↔
    ∃ number ∈ sections.flatMap Section.naturals, integerLimit ≤ number

/-- Documents are printed and read faithfully. -/
theorem isFaithful : IsFaithful print? readDocument? where
  reads named printed := readDocument?_print named printed
  fails := print?_eq_none_iff

end Toml

namespace KeyMap

variable {κ β : Type} [LT κ] [DecidableLT κ] [DecidableEq κ] [LE κ] [Std.IsLinearOrder κ]
  [Std.LawfulOrderLT κ]

/-- A key greater than all others is placed last. -/
theorem place_last {key : κ} {entries : List (κ × β)} (last : ∀ entry ∈ entries, entry.1 < key)
    (value : β) : place key value entries = entries ++ [(key, value)] := by
  induction entries with
  | nil => rfl
  | cons entry entries inductionHypothesis =>
      have before := last entry List.mem_cons_self
      have later := inductionHypothesis fun other member =>
        last other (List.mem_cons_of_mem _ member)
      rw [place, if_neg (Std.not_lt.2 (Std.le_of_lt before)), if_neg, later]
      · rfl
      · intro same
        rw [same] at before
        exact Std.lt_irrefl before

/-- Entries in ascending order are put one after another. -/
theorem foldl_insert (map : KeyMap κ β) {rest : List (κ × β)}
    (ascending : (map.entries ++ rest).Pairwise fun earlier later => earlier.1 < later.1) :
    (rest.foldl (fun map entry => map.insert entry.1 entry.2) map).entries =
      map.entries ++ rest := by
  induction rest generalizing map with
  | nil => exact (List.append_nil _).symm
  | cons entry rest inductionHypothesis =>
      have placed : (map.insert entry.1 entry.2).entries = map.entries ++ [entry] :=
        place_last (fun earlier member =>
          (List.pairwise_append.1 ascending).2.2 earlier member entry List.mem_cons_self) entry.2
      have later := inductionHypothesis (map.insert entry.1 entry.2)
        (by rwa [placed, List.append_assoc])
      rw [List.foldl_cons, later, placed, List.append_assoc]
      rfl

/-- The map of the entries of a map is the map. -/
theorem ofList_entries (map : KeyMap κ β) : ofList map.entries = map := by
  have entries : (ofList map.entries).entries = map.entries :=
    foldl_insert (.empty : KeyMap κ β) map.ascending
  obtain ⟨entries', ascending⟩ := map
  cases same : ofList entries' with
  | mk others ascending' =>
      rw [same] at entries
      subst entries
      rfl

end KeyMap

namespace Configuration

variable (config : Configuration)

section Limits

/-- The integer settings, as they are printed. -/
def integers : List Nat :=
  [config.pool.workers, config.pool.searchSpace, config.pool.faultMinRounds,
    config.pool.maxPayloadBytes, config.pool.roundIntervalMs, config.queues.capacity,
    config.queues.reclaimHeadroom] ++
  config.queues.tierCapacity.entries.map (·.2) ++
  [config.adaptation.windowRounds, config.adaptation.loadWeight,
    config.adaptation.latencyWeight, config.adaptation.historyCapacity,
    config.quality.slaBacklog, config.quality.slaWindowRounds,
    config.security.lockdownThreshold]

/-- The numbers of the sections are the integer settings. -/
theorem naturals_sections : config.sections.flatMap Section.naturals = config.integers := by
  simp [sections, Section.naturals, integers, Scalar.natural?, List.filterMap_map]

variable {write? : List Section → Option (List Char)} {read? : String → Option Entries}

/-- A configuration cannot be printed exactly if an integer is too large for a document. -/
theorem write?_eq_none_iff (faithful : IsFaithful write? read?) :
    write? config.sections = none ↔ ∃ number ∈ config.integers, integerLimit ≤ number := by
  rw [faithful.fails, naturals_sections]

/-- What can be printed is a word. -/
theorem integers_le_of_printed (faithful : IsFaithful write? read?) {text : List Char}
    (printed : write? config.sections = some text) :
    ∀ number ∈ config.integers, number ≤ greatestWord := by
  intro number member
  have printable : ¬integerLimit ≤ number := by
    intro large
    have missing := (config.write?_eq_none_iff faithful).2 ⟨number, member, large⟩
    rw [printed] at missing
    cases missing
  unfold integerLimit at printable
  unfold greatestWord
  omega

end Limits

section Fields

/-- The fields under a header. -/
def fieldsAt (path : List String) : List (String × Scalar) :=
  (config.sections.find? (·.path == path)).elim [] (·.fields)

/-- The sections of a configuration, in their order. -/
theorem sections_eq : config.sections =
    [⟨["pool"], config.fieldsAt ["pool"]⟩, ⟨["queues"], config.fieldsAt ["queues"]⟩,
      ⟨["queues", "tier_capacity"], config.fieldsAt ["queues", "tier_capacity"]⟩,
      ⟨["adaptation"], config.fieldsAt ["adaptation"]⟩,
      ⟨["thermal"], config.fieldsAt ["thermal"]⟩, ⟨["qos"], config.fieldsAt ["qos"]⟩,
      ⟨["security"], config.fieldsAt ["security"]⟩,
      ⟨["collector"], config.fieldsAt ["collector"]⟩] :=
  rfl

/-- The table of a printed configuration. -/
def printedEntries : Entries :=
  [("pool", .table .header (fieldEntries (config.fieldsAt ["pool"]))),
    ("queues", .table .header (fieldEntries (config.fieldsAt ["queues"]) ++
      [("tier_capacity",
        .table .header (fieldEntries (config.fieldsAt ["queues", "tier_capacity"])))])),
    ("adaptation", .table .header (fieldEntries (config.fieldsAt ["adaptation"]))),
    ("thermal", .table .header (fieldEntries (config.fieldsAt ["thermal"]))),
    ("qos", .table .header (fieldEntries (config.fieldsAt ["qos"]))),
    ("security", .table .header (fieldEntries (config.fieldsAt ["security"]))),
    ("collector", .table .header (fieldEntries (config.fieldsAt ["collector"])))]

/-- A printed configuration is read as its table. -/
theorem read?_printed {write? : List Section → Option (List Char)}
    {read? : String → Option Entries} (faithful : IsFaithful write? read?) {text : List Char}
    (printed : write? config.sections = some text) :
    read? (String.ofList text) = some config.printedEntries := by
  have named : ∀ section_ ∈ config.sections, section_.IsNamed := by
    rw [sections_eq]
    simp [Section.IsNamed, greatestDepth]
  have capacities : AreDistinct (config.fieldsAt ["queues", "tier_capacity"]) := by
    have distinct := config.queues.tierCapacity.distinct
    simpa [AreDistinct, fieldsAt, sections, List.pairwise_map] using distinct
  rw [faithful.reads named printed, sections_eq]
  refine assemble?_layout ?_ ?_ capacities ?_ ?_ ?_ ?_ ?_ ?_
  all_goals simp [AreDistinct, fieldsAt, sections, fieldEntries]

end Fields

section Reading

/-- A number in range is read back. -/
theorem naturalOf?_natural {greatest number : Nat} (fits : number ≤ greatest) :
    naturalOf? greatest (.integer number) = some number := by
  rw [naturalOf?, if_pos (by omega)]
  rfl

/-- A float is read back. -/
theorem floatOf?_ofFloat (number : Float) : floatOf? (.float (.ofFloat number)) = some number := by
  rw [floatOf?, binary64Of?, Option.map_some, Unpacking.toFloat_ofFloat]

/-- A reclaim mode is read back from its name. -/
theorem reclaimOf?_name (mode : ThermalReclaim) : reclaimOf? (.text mode.name) = some mode := by
  cases mode <;> rfl

/-- The settings that are kept in 32 bits fit there. -/
structure FitsHalfWords : Prop where
  loadWeight : config.adaptation.loadWeight ≤ greatestHalfWord
  latencyWeight : config.adaptation.latencyWeight ≤ greatestHalfWord
  slaWindowRounds : config.quality.slaWindowRounds ≤ greatestHalfWord
  lockdownThreshold : config.security.lockdownThreshold ≤ greatestHalfWord

variable {config}

/-- The printed pool section is read back. -/
theorem poolOf?_printed (words : ∀ number ∈ config.integers, number ≤ greatestWord) :
    poolOf? (.named (fieldEntries (config.fieldsAt ["pool"]))) = some config.pool := by
  have workers := naturalOf?_natural (words config.pool.workers (by simp [integers]))
  have searchSpace := naturalOf?_natural (words config.pool.searchSpace (by simp [integers]))
  have faultMinRounds := naturalOf?_natural (words config.pool.faultMinRounds (by simp [integers]))
  have maxPayloadBytes :=
    naturalOf?_natural (words config.pool.maxPayloadBytes (by simp [integers]))
  have roundIntervalMs :=
    naturalOf?_natural (words config.pool.roundIntervalMs (by simp [integers]))
  simp [poolOf?, fieldsAt, sections, fieldEntries, Fields.get?, Fields.value?, Scalar.value,
    List.lookup, floatOf?_ofFloat, truthOf?, workers, searchSpace, faultMinRounds,
    maxPayloadBytes, roundIntervalMs]

/-- Capacities in range are read back one by one. -/
theorem mapM_capacities {entries : List (String × Nat)}
    (words : ∀ entry ∈ entries, entry.2 ≤ greatestWord) :
    ((entries.map fun entry => (entry.1, Value.integer entry.2)).mapM
        fun (entry : String × Value) =>
          (naturalOf? greatestWord entry.2).map (entry.1, ·)) = some entries := by
  induction entries with
  | nil => rfl
  | cons entry entries inductionHypothesis =>
      have first := naturalOf?_natural (words entry List.mem_cons_self)
      have later := inductionHypothesis fun other member =>
        words other (List.mem_cons_of_mem _ member)
      rw [List.map_cons, List.mapM_cons, first, later]
      rfl

/-- The printed capacities are read back. -/
theorem capacitiesOf?_printed (words : ∀ number ∈ config.integers, number ≤ greatestWord) :
    capacitiesOf?
        (.table .header (fieldEntries (config.fieldsAt ["queues", "tier_capacity"]))) =
      some config.queues.tierCapacity := by
  have fields : fieldEntries (config.fieldsAt ["queues", "tier_capacity"]) =
      config.queues.tierCapacity.entries.map fun entry => (entry.1, .integer entry.2) := by
    simp [fieldEntries, fieldsAt, sections, Scalar.value]
  have capacities : ∀ entry ∈ config.queues.tierCapacity.entries, entry.2 ≤ greatestWord := by
    intro entry member
    refine words entry.2 (List.mem_append_left _ (List.mem_append_right _ ?_))
    exact List.mem_map_of_mem member
  rw [capacitiesOf?, fields, mapM_capacities capacities, Option.map_some, KeyMap.ofList_entries]

/-- The printed queue section is read back. -/
theorem queuesOf?_printed (words : ∀ number ∈ config.integers, number ≤ greatestWord) :
    queuesOf? (.named (fieldEntries (config.fieldsAt ["queues"]) ++ [("tier_capacity",
        .table .header (fieldEntries (config.fieldsAt ["queues", "tier_capacity"])))])) =
      some config.queues := by
  have capacity := naturalOf?_natural (words config.queues.capacity (by simp [integers]))
  have reclaimHeadroom :=
    naturalOf?_natural (words config.queues.reclaimHeadroom (by simp [integers]))
  have tierCapacity := capacitiesOf?_printed words
  generalize fieldEntries (config.fieldsAt ["queues", "tier_capacity"]) = entries at tierCapacity
  simp [queuesOf?, fieldsAt, sections, fieldEntries, Fields.get?, Fields.value?, Scalar.value,
    List.lookup, capacity, reclaimHeadroom, tierCapacity]

/-- The printed adaptation section is read back. -/
theorem adaptationOf?_printed (words : ∀ number ∈ config.integers, number ≤ greatestWord)
    (fits : config.FitsHalfWords) :
    adaptationOf? (.named (fieldEntries (config.fieldsAt ["adaptation"]))) =
      some config.adaptation := by
  have windowRounds :=
    naturalOf?_natural (words config.adaptation.windowRounds (by simp [integers]))
  have historyCapacity :=
    naturalOf?_natural (words config.adaptation.historyCapacity (by simp [integers]))
  have loadWeight := naturalOf?_natural fits.loadWeight
  have latencyWeight := naturalOf?_natural fits.latencyWeight
  simp [adaptationOf?, fieldsAt, sections, fieldEntries, Fields.get?, Fields.value?,
    Scalar.value, List.lookup, floatOf?_ofFloat, truthOf?, windowRounds, historyCapacity,
    loadWeight, latencyWeight]

/-- The printed thermal section is read back. -/
theorem thermalOf?_printed :
    thermalOf? (.named (fieldEntries (config.fieldsAt ["thermal"]))) = some config.thermal := by
  simp [thermalOf?, fieldsAt, sections, fieldEntries, Fields.get?, Fields.value?, Scalar.value,
    List.lookup, floatOf?_ofFloat, reclaimOf?_name]

/-- The printed quality section is read back. -/
theorem qualityOf?_printed (words : ∀ number ∈ config.integers, number ≤ greatestWord)
    (fits : config.FitsHalfWords) :
    qualityOf? (.named (fieldEntries (config.fieldsAt ["qos"]))) = some config.quality := by
  have slaBacklog := naturalOf?_natural (words config.quality.slaBacklog (by simp [integers]))
  have slaWindowRounds := naturalOf?_natural fits.slaWindowRounds
  simp [qualityOf?, fieldsAt, sections, fieldEntries, Fields.get?, Fields.value?, Scalar.value,
    List.lookup, truthOf?, slaBacklog, slaWindowRounds]

/-- The printed security section is read back. -/
theorem securityOf?_printed (fits : config.FitsHalfWords) :
    securityOf? (.named (fieldEntries (config.fieldsAt ["security"]))) =
      some config.security := by
  have lockdownThreshold := naturalOf?_natural fits.lockdownThreshold
  simp [securityOf?, fieldsAt, sections, fieldEntries, Fields.get?, Fields.value?, Scalar.value,
    List.lookup, floatOf?_ofFloat, lockdownThreshold]

/-- The printed collector section is read back if its smoothing factor is a number. -/
theorem collectorOf?_printed (number : config.collector.emaAlpha.isNaN = false) :
    collectorOf? (.named (fieldEntries (config.fieldsAt ["collector"]))) =
      some config.collector := by
  simp [collectorOf?, fieldsAt, sections, fieldEntries, Fields.get?, Fields.value?, Scalar.value,
    binary64Of?, Unpacking.ofFloat_toFloat number]

/-- The smoothing weight of an accepted configuration is a number. -/
theorem IsAccepted.emaAlpha_number (accepted : config.IsAccepted) :
    config.collector.emaAlpha.isNaN = false := by
  cases undefined : config.collector.emaAlpha.isNaN with
  | false => rfl
  | true => exact absurd accepted.passes.smoothing_pos (Unpacking.not_lt_toFloat undefined 0)

/-- The table of a printed configuration describes the configuration. -/
theorem ofEntries?_printedEntries (accepted : config.IsAccepted) (fits : config.FitsHalfWords)
    (words : ∀ number ∈ config.integers, number ≤ greatestWord) :
    ofEntries? config.printedEntries = some config := by
  have pool := poolOf?_printed words
  have queues := queuesOf?_printed words
  have adaptation := adaptationOf?_printed words fits
  have quality := qualityOf?_printed words fits
  have security := securityOf?_printed fits
  have collector := collectorOf?_printed accepted.emaAlpha_number
  unfold printedEntries ofEntries?
  simp [List.lookup, Fields.of?, pool, queues, adaptation, thermalOf?_printed, quality, security,
    collector]

/-- Whatever prints and reads documents faithfully, a printed configuration is read as it was. -/
theorem readsBack_of_isFaithful {write? : List Section → Option (List Char)}
    {read? : String → Option Entries} (faithful : IsFaithful write? read?)
    (accepted : config.IsAccepted) (fits : config.FitsHalfWords) :
    (∀ text, write? config.sections = some text →
      (read? (String.ofList text)).bind ofEntries? = some config) ∧
    (write? config.sections = none ↔ ∃ number ∈ config.integers, integerLimit ≤ number) := by
  refine ⟨fun text printed => ?_, config.write?_eq_none_iff faithful⟩
  rw [config.read?_printed faithful printed, Option.bind_some]
  exact ofEntries?_printedEntries accepted fits (config.integers_le_of_printed faithful printed)

end Reading

section Environment

variable {environment : Environment}

/-- All variables of the program start alike. -/
theorem hasPrefix_variableName (setting : Override) :
    "HASHGRID_".toList <+: setting.variableName.toList := by
  cases setting <;> decide

/-- A configuration stays as it is where no variable of the program is set. -/
theorem override_unset
    (unset : ∀ name, "HASHGRID_".toList <+: name.toList → environment.find? name = none) :
    config.override (environment.profiled? environment.profile) = config := by
  have missing : ∀ {name : String}, "HASHGRID_".toList <+: name.toList →
      environment.filled? name = none := by
    intro name named
    rw [Environment.filled?, unset name named]
    rfl
  have profile : environment.profile = "" := by
    rw [Environment.profile, missing (by decide)]
    decide
  have kept : ∀ setting : Override,
      setting.apply (environment.profiled? environment.profile) config = config := by
    intro setting
    rw [Override.apply, profile, Environment.profiled?, if_pos (by decide),
      missing (hasPrefix_variableName setting)]
    rfl
  rw [override]
  induction Override.all with
  | nil => rfl
  | cons setting settings inductionHypothesis =>
      rw [List.foldl_cons, kept setting, inductionHypothesis]

/-- Every accepted configuration whose document can be printed is read back from it as it was,
with all its settings, where no variable of the program is set. Only a number that is too large
for a document keeps a configuration from being printed. -/
theorem readsBack (accepted : config.IsAccepted) (fits : config.FitsHalfWords)
    (unset : ∀ name, "HASHGRID_".toList <+: name.toList → environment.find? name = none) :
    (∀ document, config.render? = some document →
      ofDocument document environment = .ok config) ∧
    (config.render? = none ↔ ∃ number ∈ config.integers, integerLimit ≤ number) := by
  obtain ⟨reads, fails⟩ := readsBack_of_isFaithful isFaithful accepted fits
  refine ⟨fun document rendered => ?_, Option.map_eq_none_iff.trans fails⟩
  obtain ⟨text, printed, rfl⟩ := Option.map_eq_some_iff.1 rendered
  have parsed : parse? (String.ofList text) = some config := reads text printed
  have passed : config.fault? = none := accepted
  rw [ofDocument, parsed]
  dsimp only
  rw [override_unset config unset, passed]

/-- Infinite, undefined and tiny floats, names of tiers in any letters, and variables that only
look like those of the program. -/
theorem readsBack_nonstandard :
    let config : Configuration :=
      { pool :=
          { workers := 7, partitionMode := false, searchSpace := 3, faultTimeoutFactor := 0 / 0 }
        queues :=
          { capacity := 9, tierCapacity := .ofList [("critical", 40), ("LOW", 2), ("low", 3)] }
        adaptation :=
          { highUtilizationPct := 1 / 0, lowUtilizationPct := -0.1, loadWeight := 4294967295 }
        thermal := { ambientC := 1e-7, reclaim := .requeue }
        quality := { slaWindowRounds := 1, emergencyMode := true }
        security := { deviationThreshold := 0.3, lockdownThreshold := 2 }
        collector := ⟨.ofFloat 1⟩ }
    let environment : Environment := .ofList [("HOME", "/root"), ("TEST_HASHGRID_WORKERS", "8")]
    config.IsAccepted ∧ config.FitsHalfWords ∧
      (∀ name, "HASHGRID_".toList <+: name.toList → environment.find? name = none) ∧
      ∃ document, config.render? = some document ∧
        ofDocument document environment = .ok config := by
  intro config environment
  have accepted : config.IsAccepted := by
    unfold IsAccepted
    decide +kernel
  have fits : config.FitsHalfWords := by
    constructor <;> decide +kernel
  have unset : ∀ name, "HASHGRID_".toList <+: name.toList → environment.find? name = none := by
    intro name named
    refine List.lookup_eq_none_iff.2 fun entry member => bne_iff_ne.2 ?_
    rintro rfl
    revert named
    revert entry
    decide +kernel
  have ⟨reads, unprintable⟩ := readsBack config accepted fits unset
  have printable : config.render? ≠ none := by
    intro missing
    obtain ⟨number, member, large⟩ := unprintable.1 missing
    revert large
    revert number
    decide +kernel
  obtain ⟨document, rendered⟩ := Option.ne_none_iff_exists'.1 printable
  exact ⟨accepted, fits, unset, document, rendered, reads document rendered⟩

end Environment

end Configuration

end PoolArbiter
