import TgGate.AccountRepository
import TgGate.Library.JsonText
import TgGate.Library.KeyedList

namespace TgGate

open Library

/-!
# Account documents

What the parser checks of a list of accounts does not depend on the protected
secrets in it, nor on how often the separators of its data directories are
repeated.  A list that was parsed, with secrets replaced, is therefore written as
a document that parses to the same list with its directories in generic spelling.
-/

namespace AccountRepository

/-- What the parser's checks depend on. -/
structure Location where
  id : Bytes
  databaseDirectory : FilesystemPath
  filesDirectory : FilesystemPath
  apiId : Int32

/-- The checked fields of an account. -/
def location (account : AccountConfiguration) : Location where
  id := account.id
  databaseDirectory := account.databaseDirectory
  filesDirectory := account.filesDirectory
  apiId := account.apiId

/-- The accounts are acceptable after some identifiers and directories. -/
def AcceptableAfter
    (identifiers dataDirectories : List Bytes) :
    List AccountConfiguration → Prop
  | [] => True
  | account :: rest =>
      accountIsAcceptable identifiers dataDirectories account = true ∧
        AcceptableAfter (account.id :: identifiers)
          (account.filesDirectory.genericString ::
            account.databaseDirectory.genericString :: dataDirectories)
          rest

/-- The accounts are those of an acceptable document. -/
def Acceptable (accounts : List AccountConfiguration) : Prop :=
  AcceptableAfter [] [] accounts

theorem acceptableAfter_of_parseAccounts
    {library : DocumentLibrary}
    {identifiers dataDirectories : List Bytes}
    {entries : List Json}
    {accounts : List AccountConfiguration}
    (parsed :
      parseAccounts library identifiers dataDirectories entries =
        .ok accounts) :
    AcceptableAfter identifiers dataDirectories accounts := by
  induction entries generalizing identifiers dataDirectories accounts with
  | nil =>
      obtain rfl := Except.ok.inj parsed
      trivial
  | cons value rest inductionHypothesis =>
      simp only [parseAccounts, Json.bind_eq_ok_iff,
        ParseFailure.require_eq_ok_iff,
        ParseFailure.mayThrow_eq_ok_iff] at parsed
      obtain ⟨-, -, account, -, -, acceptable, others, restParsed,
        shape⟩ := parsed
      obtain rfl := Except.ok.inj shape
      exact ⟨acceptable, inductionHypothesis restParsed⟩

/-- Every list that the parser returns is acceptable. -/
theorem acceptable_of_parse
    {library : DocumentLibrary}
    {document : Json}
    {accounts : List AccountConfiguration}
    (parsed : parse library document = .ok accounts) :
    Acceptable accounts := by
  simp only [parse, Json.bind_eq_ok_iff, ParseFailure.require_eq_ok_iff,
    ParseFailure.mayThrow_eq_ok_iff,
    ParseFailure.rejectThrown_eq_ok_iff] at parsed
  obtain ⟨-, -, schemaVersion, -, -, -, -, -, -, -, entries, -,
    entriesParsed⟩ := parsed
  exact acceptableAfter_of_parseAccounts entriesParsed

/-- Acceptability is a matter of the checked fields. -/
theorem acceptableAfter_congr
    {identifiers dataDirectories : List Bytes}
    {accounts others : List AccountConfiguration}
    (same : accounts.map location = others.map location)
    (acceptable : AcceptableAfter identifiers dataDirectories accounts) :
    AcceptableAfter identifiers dataDirectories others := by
  induction accounts generalizing identifiers dataDirectories others with
  | nil =>
      obtain rfl := List.map_eq_nil_iff.mp same.symm
      trivial
  | cons account rest inductionHypothesis =>
      rcases others with _ | ⟨other, others⟩
      · cases same
      · simp only [List.map_cons, List.cons.injEq, location,
          Location.mk.injEq] at same
        rcases same with ⟨⟨sameId, sameDatabase, sameFiles, sameApi⟩,
          sameRest⟩
        rcases acceptable with ⟨accepted, restAcceptable⟩
        unfold accountIsAcceptable at accepted
        unfold AcceptableAfter accountIsAcceptable
        rw [← sameId, ← sameDatabase, ← sameFiles, ← sameApi]
        exact ⟨accepted, inductionHypothesis sameRest restAcceptable⟩

/-- Ids that were used are not used again. -/
theorem nodup_ids_of_acceptableAfter
    {identifiers dataDirectories : List Bytes}
    {accounts : List AccountConfiguration}
    (acceptable : AcceptableAfter identifiers dataDirectories accounts) :
    (accounts.map AccountConfiguration.id).Nodup ∧
      ∀ account ∈ accounts, account.id ∉ identifiers := by
  induction accounts generalizing identifiers dataDirectories with
  | nil =>
      simp
  | cons account rest inductionHypothesis =>
      rcases acceptable with ⟨accepted, restAcceptable⟩
      obtain ⟨restNodup, restFresh⟩ := inductionHypothesis restAcceptable
      simp only [List.mem_cons, not_or] at restFresh
      have fresh : account.id ∉ identifiers := by
        simp only [accountIsAcceptable, Bool.and_eq_true,
          decide_eq_true_eq] at accepted
        tauto
      constructor
      · rw [List.map_cons, List.nodup_cons]
        refine ⟨?_, restNodup⟩
        intro again
        obtain ⟨other, inRest, sameId⟩ := List.mem_map.mp again
        exact (restFresh other inRest).1 sameId
      · intro other member
        rcases List.mem_cons.mp member with rfl | inRest
        · exact fresh
        · exact (restFresh other inRest).2

/-- The data directories of the accounts, in the order of the document. -/
def directories (accounts : List AccountConfiguration) : List FilesystemPath :=
  accounts.flatMap fun account =>
    [account.databaseDirectory, account.filesDirectory]

/-- The data directories as they are compared. -/
def genericDirectories (accounts : List AccountConfiguration) : List Bytes :=
  (directories accounts).map FilesystemPath.genericString

/-- The spellings that were used are not used again. -/
theorem nodup_genericDirectories_of_acceptableAfter
    {identifiers dataDirectories : List Bytes}
    {accounts : List AccountConfiguration}
    (acceptable : AcceptableAfter identifiers dataDirectories accounts) :
    (genericDirectories accounts).Nodup ∧
      ∀ directory ∈ genericDirectories accounts,
        directory ∉ dataDirectories := by
  induction accounts generalizing identifiers dataDirectories with
  | nil =>
      simp [genericDirectories, directories]
  | cons account rest inductionHypothesis =>
      rcases acceptable with ⟨accepted, restAcceptable⟩
      obtain ⟨restNodup, restFresh⟩ := inductionHypothesis restAcceptable
      simp only [List.mem_cons, not_or] at restFresh
      simp only [accountIsAcceptable, Bool.and_eq_true,
        decide_eq_true_eq, List.mem_cons, not_or] at accepted
      rcases accepted with ⟨⟨-, database⟩, files, filesNe⟩
      have shape :
          genericDirectories (account :: rest) =
            account.databaseDirectory.genericString ::
              account.filesDirectory.genericString ::
                genericDirectories rest :=
        rfl
      rw [shape]
      constructor
      · simp only [List.nodup_cons, List.mem_cons, not_or]
        refine ⟨⟨Ne.symm files, ?_⟩, ?_, restNodup⟩
        · intro again
          exact (restFresh _ again).2.1 rfl
        · intro again
          exact (restFresh _ again).1 rfl
      · intro directory member
        simp only [List.mem_cons] at member
        rcases member with rfl | rfl | inRest
        · exact database
        · exact filesNe
        · exact (restFresh directory inRest).2.2

theorem Acceptable.distinct
    {accounts : List AccountConfiguration}
    (acceptable : Acceptable accounts) :
    (accounts.map AccountConfiguration.id).Nodup :=
  (nodup_ids_of_acceptableAfter acceptable).1

/-- The account with its data directories as `save` spells them. -/
def spelledGenerically
    (account : AccountConfiguration) : AccountConfiguration :=
  { account with
    databaseDirectory := account.databaseDirectory.genericString
    filesDirectory := account.filesDirectory.genericString }

@[simp] theorem id_spelledGenerically (account : AccountConfiguration) :
    (spelledGenerically account).id = account.id :=
  rfl

@[simp] theorem databaseKeyDpapi_spelledGenerically
    (account : AccountConfiguration) :
    (spelledGenerically account).databaseKeyDpapi =
      account.databaseKeyDpapi :=
  rfl

@[simp] theorem spelledGenerically_spelledGenerically
    (account : AccountConfiguration) :
    spelledGenerically (spelledGenerically account) =
      spelledGenerically account := by
  simp [spelledGenerically]

/-- An account is found by its id, however its directories are spelled. -/
theorem find?_map_spelledGenerically
    (accounts : List AccountConfiguration)
    (accountId : Bytes) :
    (accounts.map spelledGenerically).find? (·.id = accountId) =
      (accounts.find? (·.id = accountId)).map spelledGenerically :=
  List.find?_map

/-- Two accounts at one location are equal if they are spelled alike. -/
theorem eq_of_spelledGenerically
    {account other : AccountConfiguration}
    (sameLocation : location account = location other)
    (same : spelledGenerically account = spelledGenerically other) :
    account = other := by
  cases account
  cases other
  simp_all [location, spelledGenerically]

theorem isSafeTdlibDataPath_genericString (path : FilesystemPath) :
    isSafeTdlibDataPath path.genericString = isSafeTdlibDataPath path := by
  simp only [isSafeTdlibDataPath, FilesystemPath.isEmpty_genericString,
    FilesystemPath.isAbsolute_genericString,
    FilesystemPath.lexicallyNormal_genericString]

/-- The spelling of its directories does not make an account acceptable. -/
theorem accountIsAcceptable_spelledGenerically
    (identifiers dataDirectories : List Bytes)
    (account : AccountConfiguration) :
    accountIsAcceptable identifiers dataDirectories
        (spelledGenerically account) =
      accountIsAcceptable identifiers dataDirectories account := by
  simp only [accountIsAcceptable, spelledGenerically,
    isSafeTdlibDataPath_genericString, FilesystemPath.isEmpty_genericString,
    FilesystemPath.genericString_genericString]
  rfl

section RoundTrip

variable (library : DocumentLibrary)

/-- The entry of an account has all fields and no others. -/
theorem accountDocument_fields (account : AccountConfiguration) :
    ((accountDocument account).isObject &&
      !(accountDocument account).contains (bytes "api_hash") &&
        hasOnlyAccountFields (accountDocument account)) = true := by
  have onlyFields :
      hasOnlyAccountFields (accountDocument account) = true := by
    unfold hasOnlyAccountFields
    rw [List.all_eq_true]
    intro key member
    exact decide_eq_true (Json.key_of_mem_keys_ofMembers member)
  have isObject : (accountDocument account).isObject = true := rfl
  have noPlainHash :
      (accountDocument account).contains (bytes "api_hash") = false := by
    simp [accountDocument, Json.contains]
  simp [onlyFields, isObject, noPlainHash]

/-- An entry is read back as the account it was written for. -/
theorem readAccount_accountDocument (account : AccountConfiguration) :
    readAccount library (accountDocument account) =
      .ok (spelledGenerically account) := by
  simp [readAccount, spelledGenerically, Json.stringAt, Json.atKey, Json.valueOr,
    accountDocument, Json.isObject_ofMembers, Json.getString,
    Json.getInt32, bind, Except.bind, pure, Except.pure]

/-- The entries of acceptable accounts are parsed back. -/
theorem parseAccounts_map_accountDocument
    {identifiers dataDirectories : List Bytes}
    {accounts : List AccountConfiguration}
    (acceptable : AcceptableAfter identifiers dataDirectories accounts) :
    parseAccounts library identifiers dataDirectories
        (accounts.map accountDocument) =
      .ok (accounts.map spelledGenerically) := by
  induction accounts generalizing identifiers dataDirectories with
  | nil =>
      rfl
  | cons account rest inductionHypothesis =>
      rcases acceptable with ⟨accepted, restAcceptable⟩
      have restParsed := inductionHypothesis restAcceptable
      simp [parseAccounts, accountDocument_fields,
        readAccount_accountDocument,
        accountIsAcceptable_spelledGenerically, accepted,
        ParseFailure.require, ParseFailure.mayThrow, Except.mapError,
        bind, Except.bind, pure, Except.pure]
      simp [spelledGenerically, restParsed]

/-- The document written for acceptable accounts parses to them, respelled. -/
theorem parse_document
    {accounts : List AccountConfiguration}
    (acceptable : Acceptable accounts) :
    parse library (document accounts) =
      .ok (accounts.map spelledGenerically) := by
  have isObject : (document accounts).isObject = true := rfl
  have version :
      (document accounts).valueOr (bytes "schema_version")
          (Json.getInt32 library) 0 =
        .ok 1 := by
    have found :
        (document accounts).find? (bytes "schema_version") =
          some (.numberInteger 1) := by
      simp [document]
    rw [Json.valueOr_of_find? found]
    rfl
  have entries :
      (document accounts).find? (bytes "accounts") =
        some (.array (accounts.map accountDocument)) := by
    simp [document]
  have rootOnly :
      (document accounts).keys.all (· ∈ rootFields) = true := by
    rw [List.all_eq_true]
    intro key member
    exact decide_eq_true (Json.key_of_mem_keys_ofMembers member)
  simp only [parse, Json.bind_eq_ok_iff, ParseFailure.require_eq_ok_iff,
    ParseFailure.mayThrow_eq_ok_iff,
    ParseFailure.rejectThrown_eq_ok_iff]
  refine ⟨(), isObject, 1, version, (), by decide, (), ?_, (), rootOnly,
    _, Json.atKey_of_find? entries,
    parseAccounts_map_accountDocument library acceptable⟩
  rw [hasAccountsArray, entries]
  rfl

end RoundTrip

end AccountRepository

end TgGate
