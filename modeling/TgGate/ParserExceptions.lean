import TgGate.ParserCalls

namespace TgGate

open Library Statement

/-!
# Which documents make the parsers throw

Each parser explains whatever it rejects.  The accessors inside its `try` block
are contained; `schema_version` is read in front of it, and converting a member
that is neither a number nor a boolean throws.
-/

/-- The document has no schema version, or one that converts to an `int`. -/
def ReadableVersion (document : Json) : Prop :=
  ∀ version,
    document.find? (bytes "schema_version") = some version →
    version.isNumber = true ∨ ∃ value, version = .boolean value

/-- Converting to an `int` throws for all but numbers and booleans. -/
theorem getInt32_throws_iff
    {library : DocumentLibrary}
    {value : Json} :
    (∀ exception, value.getInt32 library ≠ .error exception) ↔
      value.isNumber = true ∨ ∃ flag, value = .boolean flag := by
  cases value <;> simp [Json.getInt32, Json.isNumber]

/-- The version of an object is read, or it is not readable. -/
theorem contained_version_iff
    {library : DocumentLibrary}
    {document : Json}
    (object : document.isObject = true) :
    Contained
        (ParseFailure.mayThrow
          (document.valueOr (bytes "schema_version")
            (Json.getInt32 library) 0)) ↔
      ReadableVersion document := by
  rw [contained_mayThrow_iff]
  unfold ReadableVersion Json.valueOr
  rw [if_pos object]
  cases found : document.find? (bytes "schema_version") with
  | none =>
      simp
  | some version =>
      simp only [Option.some.injEq, forall_eq']
      exact getInt32_throws_iff

/-- Only an object can have an unreadable version. -/
theorem readableVersion_of_not_object
    {document : Json}
    (other : document.isObject = false) :
    ReadableVersion document := by
  intro version found
  rw [Json.isObject_of_find? found] at other
  cases other

/-- A parser that is contained after the version throws for that alone. -/
theorem contained_versioned_iff
    {Value : Type}
    {library : DocumentLibrary}
    {document : Json}
    {malformed : Bytes}
    {next : Int32 → Except ParseFailure Value}
    (nextContained : ∀ version, Contained (next version)) :
    Contained (do
        ParseFailure.require document.isObject malformed
        let version ←
          ParseFailure.mayThrow
            (document.valueOr (bytes "schema_version")
              (Json.getInt32 library) 0)
        next version) ↔
      ReadableVersion document := by
  rw [contained_require_bind_iff, contained_bind_iff nextContained]
  cases object : document.isObject with
  | false =>
      exact iff_of_true (fun impossible => by cases impossible)
        (readableVersion_of_not_object object)
  | true =>
      simp only [forall_const]
      exact contained_version_iff object

namespace ClientProfileRepository

variable (library : DocumentLibrary)

theorem explains_acceptClient
    (identifiers : List Bytes)
    (profile : McpClientProfile)
    (writePolicy? : Option WritePolicy) :
    Explains (acceptClient identifiers profile writePolicy?) := by
  unfold acceptClient
  split
  · exact explains_reject (by decide)
  · cases writePolicy? with
    | none =>
        exact explains_reject (by decide)
    | some writePolicy =>
        exact explains_ok _

theorem explains_parseClients
    (identifiers : List Bytes)
    (clients : List Json) :
    Explains (parseClients library identifiers clients) := by
  induction clients generalizing identifiers with
  | nil =>
      exact explains_ok []
  | cons client rest inductionHypothesis =>
      refine (explains_require (by decide)).bind fun _ => ?_
      refine (explains_require (by decide)).bind fun _ => ?_
      refine (explains_mayThrow _).bind fun profile => ?_
      refine (explains_mayThrow _).bind fun writePolicy? => ?_
      refine (explains_acceptClient _ _ _).bind fun accepted => ?_
      exact (inductionHypothesis _).bind fun parsed => explains_ok _

theorem explains_parse (document : Json) :
    Explains (parse library document) := by
  refine (explains_require (by decide)).bind fun _ => ?_
  refine (explains_mayThrow _).bind fun schemaVersion => ?_
  refine (explains_require (by decide)).bind fun _ => ?_
  refine (explains_require (by decide)).bind fun _ => ?_
  refine (explains_require (by decide)).bind fun _ => ?_
  refine Explains.rejectThrown ?_ (by decide)
  refine (explains_mayThrow _).bind fun clients => ?_
  exact explains_parseClients library [] clients.elements

theorem contained_parse_iff (document : Json) :
    Contained (parse library document) ↔ ReadableVersion document := by
  refine contained_versioned_iff fun version => ?_
  apply contained_of_require
  apply contained_of_require
  apply contained_of_require
  exact contained_rejectThrown _ _

end ClientProfileRepository

namespace AccountRepository

variable (library : DocumentLibrary)

theorem explains_parseAccounts
    (identifiers dataDirectories : List Bytes)
    (accounts : List Json) :
    Explains
      (parseAccounts library identifiers dataDirectories accounts) := by
  induction accounts generalizing identifiers dataDirectories with
  | nil =>
      exact explains_ok []
  | cons account rest inductionHypothesis =>
      refine (explains_require (by decide)).bind fun _ => ?_
      refine (explains_mayThrow _).bind fun account => ?_
      refine (explains_require (by decide)).bind fun _ => ?_
      exact (inductionHypothesis _ _).bind fun parsed => explains_ok _

theorem explains_parse (document : Json) :
    Explains (parse library document) := by
  refine (explains_require (by decide)).bind fun _ => ?_
  refine (explains_mayThrow _).bind fun schemaVersion => ?_
  refine (explains_require (by decide)).bind fun _ => ?_
  refine (explains_require (by decide)).bind fun _ => ?_
  refine (explains_require (by decide)).bind fun _ => ?_
  refine Explains.rejectThrown ?_ (by decide)
  refine (explains_mayThrow _).bind fun accounts => ?_
  exact explains_parseAccounts library [] [] accounts.elements

theorem contained_parse_iff (document : Json) :
    Contained (parse library document) ↔ ReadableVersion document := by
  refine contained_versioned_iff fun version => ?_
  apply contained_of_require
  apply contained_of_require
  apply contained_of_require
  exact contained_rejectThrown _ _

end AccountRepository

namespace McpHostConfigurationRepository

variable (library : DocumentLibrary)

theorem explains_parseCredentials
    (clientIds : List Bytes)
    (credentials : List Json) :
    Explains (parseCredentials clientIds credentials) := by
  induction credentials generalizing clientIds with
  | nil =>
      exact explains_ok []
  | cons credential rest inductionHypothesis =>
      refine (explains_require (by decide)).bind fun _ => ?_
      refine (explains_mayThrow _).bind fun clientId => ?_
      refine (explains_require (by decide)).bind fun _ => ?_
      refine (explains_mayThrow _).bind fun bearerTokenDpapi => ?_
      exact (inductionHypothesis _).bind fun parsed => explains_ok _

theorem explains_parseClientCredentials (document : Json) :
    Explains (parseClientCredentials document) := by
  refine (explains_require (by decide)).bind fun _ => ?_
  exact explains_parseCredentials [] _

theorem explains_parseLegacyToken (document : Json) :
    Explains (parseLegacyToken document) := by
  refine (explains_mayThrow _).bind fun legacyToken => ?_
  exact (explains_require (by decide)).bind fun _ => explains_ok _

theorem explains_parse (document : Json) :
    Explains (parse library document) := by
  refine (explains_require (by decide)).bind fun _ => ?_
  refine (explains_mayThrow _).bind fun schemaVersion => ?_
  refine (explains_require (by decide)).bind fun _ => ?_
  refine (explains_require (by decide)).bind fun _ => ?_
  refine Explains.rejectThrown ?_ (by decide)
  refine (explains_mayThrow _).bind fun settings => ?_
  refine (explains_require (by decide)).bind fun _ => ?_
  split
  · exact (explains_parseLegacyToken document).bind fun legacyToken =>
      explains_ok _
  · exact (explains_parseClientCredentials document).bind
      fun credentials => explains_ok _

theorem contained_parse_iff (document : Json) :
    Contained (parse library document) ↔ ReadableVersion document := by
  refine contained_versioned_iff fun version => ?_
  apply contained_of_require
  apply contained_of_require
  exact contained_rejectThrown _ _

end McpHostConfigurationRepository

/--
Each of the three parsers reports every document by its result, exactly if the
document has no schema version or one that is a number or a boolean.
-/
theorem parsers_report_iff
    (library : DocumentLibrary)
    (document : Json) :
    (ReportsByResult
        (ClientProfileRepository.parseInto library document) ↔
      ReadableVersion document) ∧
    (ReportsByResult (AccountRepository.parseInto library document) ↔
      ReadableVersion document) ∧
    (ReportsByResult
        (McpHostConfigurationRepository.parseInto library document) ↔
      ReadableVersion document) := by
  refine ⟨?_, ?_, ?_⟩
  · rw [(ClientProfileRepository.delivers_parseInto library
        document).reportsByResult_iff
      (ClientProfileRepository.explains_parse library document)]
    exact ClientProfileRepository.contained_parse_iff library document
  · rw [(AccountRepository.delivers_parseInto library
        document).reportsByResult_iff
      (AccountRepository.explains_parse library document)]
    exact AccountRepository.contained_parse_iff library document
  · have : Nonempty McpHostConfiguration := ⟨{}⟩
    rw [(McpHostConfigurationRepository.delivers_parseInto library
        document).reportsByResult_iff
      (McpHostConfigurationRepository.explains_parse library document)]
    exact McpHostConfigurationRepository.contained_parse_iff library
      document

/-- A document whose version is written as a text. -/
def textVersion : Json :=
  .ofMembers
    [(bytes "schema_version", .string (bytes "1")),
      (bytes "clients", .array [])]

/-- The exception leaves all three parsers. -/
theorem textVersion_not_reported :
    ¬ ReportsByResult
        (ClientProfileRepository.parseInto (readingLibrary .null)
          textVersion) ∧
      ¬ ReportsByResult
        (AccountRepository.parseInto (readingLibrary .null)
          textVersion) ∧
      ¬ ReportsByResult
        (McpHostConfigurationRepository.parseInto (readingLibrary .null)
          textVersion) := by
  refine ⟨fun reports => ?_, fun reports => ?_, fun reports => ?_⟩
  · obtain ⟨result, returned, -⟩ := reports ⟨[], []⟩
    cases returned
  · obtain ⟨result, returned, -⟩ := reports ⟨[], []⟩
    cases returned
  · obtain ⟨result, returned, -⟩ := reports ⟨{}, []⟩
    cases returned

end TgGate
