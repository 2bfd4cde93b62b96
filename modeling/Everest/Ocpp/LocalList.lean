import Everest.Ocpp.Queues
import Mathlib.Data.List.Induction

namespace Everest.Ocpp.V2

structure IdToken where
  idToken : CiString
  type : CiString
  deriving DecidableEq

structure AuthorizationData (Info : Type) where
  idToken : IdToken
  idTokenInfo : Option Info

inductive UpdateEnum
  | full | differential
  deriving DecidableEq

inductive SendLocalListStatus
  | accepted | failed | versionMismatch
  deriving DecidableEq

structure SendLocalListRequest (Info : Type) where
  versionNumber : ℤ
  updateType : UpdateEnum
  localAuthorizationList : Option (List (AuthorizationData Info)) := none

structure ListTables (Hash Info : Type) where
  list : Hash → Option Info := fun _ => none
  version : ℤ := 0

/-- Which of the statements of a request succeed. -/
structure Statements where
  readVersion : Bool := true
  clear : Bool := true
  /-- The insertion or deletion of the entry at a position. -/
  entry : ℕ → Bool := fun _ => true
  writeVersion : Bool := true

variable {Info Hash : Type} [DecidableEq Hash] (sha256 : String → Hash) (ok : Statements)
  (list : List (AuthorizationData Info)) (request : SendLocalListRequest Info)
  (tables : ListTables Hash Info)

/-- The key of a token in the table, in which capital and small letters differ. -/
def generateTokenHash (token : IdToken) : Hash := sha256 (token.type ++ token.idToken)

/-- Tokens are compared without regard to capital and small letters. -/
def IdToken.equals (a b : IdToken) : Bool :=
  a.idToken.iequals b.idToken && a.type.iequals b.type

def hasDuplicateInList : List (AuthorizationData Info) → Bool
  | [] => false
  | item :: list => list.any (item.idToken.equals ·.idToken) || hasDuplicateInList list

def hasNoTokenInfo (item : AuthorizationData Info) : Bool := item.idTokenInfo.isNone

namespace ListTables

/-- An entry that cannot be written is skipped. -/
def writeEntry (table : Hash → Option Info) (item : AuthorizationData Info × ℕ) :
    Hash → Option Info :=
  if ok.entry item.2 then
    Function.update table (generateTokenHash sha256 item.1.idToken) item.1.idTokenInfo
  else table

def insertOrUpdateLocalAuthorizationList : Bool × ListTables Hash Info :=
  (list.zipIdx.all fun item => ok.entry item.2,
    { tables with list := list.zipIdx.foldl (writeEntry sha256 ok) tables.list })

/-- Clear the list, then insert. Nothing is inserted if the first fails. -/
def replaceList : Bool × ListTables Hash Info :=
  if ok.clear then
    insertOrUpdateLocalAuthorizationList sha256 ok list { tables with list := fun _ => none }
  else (false, tables)

/-- The status and the tables; `none` if the exception of reading the version escapes. An empty
list is cleared only, or left as it is. -/
def applyLocalAuthorizationList : Option (SendLocalListStatus × ListTables Hash Info) :=
  let list := request.localAuthorizationList.getD []
  let answer := fun written : Bool × ListTables Hash Info =>
    (if written.1 then SendLocalListStatus.accepted else .failed, written.2)
  if request.versionNumber ≤ 0 then some (.failed, tables)
  else match request.updateType with
    | .full =>
      if hasDuplicateInList list || list.any hasNoTokenInfo then some (.failed, tables)
      else some (answer (replaceList sha256 ok list tables))
    | .differential =>
      if !ok.readVersion then none
      else if request.versionNumber ≤ tables.version then some (.versionMismatch, tables)
      else if hasDuplicateInList list then some (.failed, tables)
      else some (answer (insertOrUpdateLocalAuthorizationList sha256 ok list tables))

def handleSendLocalAuthorizationListReq (enabled : Bool) :
    Option (SendLocalListStatus × ListTables Hash Info) :=
  if !enabled then some (.failed, tables)
  else (applyLocalAuthorizationList sha256 ok request tables).map fun (status, written) =>
    if status = .accepted then
      if ok.writeVersion then (status, { written with version := request.versionNumber })
      else (.failed, written)
    else (status, written)

def lastEntry (key : Hash) : Option (AuthorizationData Info) :=
  (list.zipIdx.filter fun item =>
    ok.entry item.2 && generateTokenHash sha256 item.1.idToken = key).getLast?.map Prod.fst

def Admitted : Prop :=
  let list := request.localAuthorizationList.getD []
  0 < request.versionNumber ∧ hasDuplicateInList list = false ∧
    match request.updateType with
    | .full => ∀ item ∈ list, item.idTokenInfo.isSome
    | .differential => ok.readVersion ∧ tables.version < request.versionNumber

def AllSucceed : Prop :=
  (request.updateType = .full → ok.clear) ∧
    (∀ i < (request.localAuthorizationList.getD []).length, ok.entry i) ∧ ok.writeVersion

/-- The statements that succeed write what is stored: a Full update does not clear the list or
writes all of it again, the entries of a Differential one are as in the list. -/
def WritesStored : Prop :=
  let last := lastEntry sha256 ok (request.localAuthorizationList.getD [])
  match request.updateType with
  | .full => ok.clear = false ∨ ∀ key, (last key).bind (·.idTokenInfo) = tables.list key
  | .differential => ∀ key, ∀ item ∈ last key, item.idTokenInfo = tables.list key

lemma foldl_writeEntry (items : List (AuthorizationData Info × ℕ)) (table : Hash → Option Info)
    (key : Hash) :
    items.foldl (writeEntry sha256 ok) table key =
      ((items.filter fun item =>
        ok.entry item.2 && generateTokenHash sha256 item.1.idToken = key).getLast?.elim (table key)
          (·.1.idTokenInfo)) := by
  induction items using List.reverseRecOn with
  | nil => rfl
  | append_singleton items item ih =>
    rw [List.foldl_append, List.foldl_cons, List.foldl_nil, List.filter_append, writeEntry]
    by_cases hok : ok.entry item.2 = true
    · by_cases hkey : generateTokenHash sha256 item.1.idToken = key
      · simp [hok, hkey]
      · simp [hok, hkey, Function.update_of_ne (Ne.symm hkey), ih]
    · simp [hok, ih]

lemma insertOrUpdate_list (key : Hash) :
    (insertOrUpdateLocalAuthorizationList sha256 ok list tables).2.list key =
      (lastEntry sha256 ok list key).elim (tables.list key) (·.idTokenInfo) := by
  simp only [insertOrUpdateLocalAuthorizationList, foldl_writeEntry, lastEntry]
  cases (list.zipIdx.filter _).getLast? <;> rfl

lemma insertOrUpdate_succeeds :
    (insertOrUpdateLocalAuthorizationList sha256 ok list tables).1 = true ↔
      ∀ i < list.length, ok.entry i := by
  simp only [insertOrUpdateLocalAuthorizationList, List.all_eq_true]
  constructor
  · intro h i hi
    exact h (list[i], i) (by simp [List.mem_zipIdx_iff_getElem?])
  · rintro h ⟨item, i⟩ hitem
    obtain ⟨hi, -⟩ := List.getElem?_eq_some_iff.1 (List.mem_zipIdx_iff_getElem?.1 hitem)
    exact h i hi

def updateList : Bool × ListTables Hash Info :=
  match request.updateType with
  | .full => replaceList sha256 ok (request.localAuthorizationList.getD []) tables
  | .differential =>
    insertOrUpdateLocalAuthorizationList sha256 ok (request.localAuthorizationList.getD []) tables

lemma apply_of_admitted (h : Admitted ok request tables) :
    applyLocalAuthorizationList sha256 ok request tables =
      some (if (updateList sha256 ok request tables).1 then .accepted else .failed,
        (updateList sha256 ok request tables).2) := by
  obtain ⟨hversion, hduplicates, htype⟩ := h
  unfold applyLocalAuthorizationList updateList
  rw [if_neg (by omega)]
  cases hupdate : request.updateType with
  | full =>
    simp only [hupdate] at htype
    have hinfo : (request.localAuthorizationList.getD []).any hasNoTokenInfo = false := by
      simpa [hasNoTokenInfo, Option.isSome_iff_ne_none] using htype
    simp [hduplicates, hinfo]
  | differential =>
    simp only [hupdate] at htype
    have hnewer : ¬request.versionNumber ≤ tables.version := by omega
    simp [hduplicates, htype.1, hnewer]

/-- A request that is not admitted changes nothing and is not accepted. -/
lemma apply_of_not_admitted (h : ¬Admitted ok request tables) :
    ∀ answer ∈ applyLocalAuthorizationList sha256 ok request tables,
      answer.1 ≠ .accepted ∧ answer.2 = tables := by
  have hrefused : ∀ status ≠ SendLocalListStatus.accepted,
      ∀ answer ∈ some (status, tables), answer.1 ≠ .accepted ∧ answer.2 = tables := by
    rintro status hstatus _ ⟨rfl⟩
    exact ⟨hstatus, rfl⟩
  unfold Admitted at h
  unfold applyLocalAuthorizationList
  by_cases hversion : request.versionNumber ≤ 0
  · rw [if_pos hversion]
    exact hrefused .failed nofun
  rw [if_neg hversion]
  cases hupdate : request.updateType with
  | full =>
    dsimp only
    rw [if_pos]
    · exact hrefused .failed nofun
    · by_contra hneither
      rw [Bool.or_eq_true, not_or, Bool.not_eq_true, Bool.not_eq_true] at hneither
      refine h ⟨by omega, hneither.1, ?_⟩
      simpa [hupdate, hasNoTokenInfo, Option.isSome_iff_ne_none] using hneither.2
  | differential =>
    dsimp only
    by_cases hread : ok.readVersion = true
    · rw [if_neg (by simp [hread])]
      by_cases hold : request.versionNumber ≤ tables.version
      · rw [if_pos hold]
        exact hrefused .versionMismatch nofun
      · rw [if_neg hold, if_pos]
        · exact hrefused .failed nofun
        · by_contra hduplicates
          refine h ⟨by omega, by simpa using hduplicates, ?_⟩
          simpa [hupdate, hread] using hold
    · rw [if_pos (by simp [hread])]
      exact fun _ hnone => absurd hnone (Option.not_mem_none _)

omit [DecidableEq Hash] in
lemma eq_tables_iff {f : Hash → Option Info} {version : ℤ} (h : version = tables.version) :
    (⟨f, version⟩ : ListTables Hash Info) = tables ↔ ∀ key, f key = tables.list key := by
  subst h
  constructor
  · intro h key
    rw [← h]
  · intro h
    rw [funext h]

lemma updateList_unchanged_iff :
    (updateList sha256 ok request tables).2 = tables ↔ WritesStored sha256 ok request tables := by
  have hlist := insertOrUpdate_list sha256 ok (request.localAuthorizationList.getD [])
  unfold updateList WritesStored
  cases request.updateType with
  | full =>
    dsimp only
    unfold replaceList
    split_ifs with hclear
    · rw [eq_tables_iff _ (by rfl)]
      simp only [hclear, Bool.true_eq_false, false_or]
      refine forall_congr' fun key => ?_
      have hkey := hlist { tables with list := fun _ => none } key
      rw [hkey]
      cases lastEntry sha256 ok (request.localAuthorizationList.getD []) key <;> simp
    · simp [hclear]
  | differential =>
    dsimp only
    rw [eq_tables_iff _ (by rfl)]
    refine forall_congr' fun key => ?_
    have hkey := hlist tables key
    rw [hkey]
    cases lastEntry sha256 ok (request.localAuthorizationList.getD []) key <;> simp

lemma updateList_succeeds_iff :
    ((updateList sha256 ok request tables).1 && ok.writeVersion) = true ↔
      AllSucceed ok request := by
  have hsucceeds := insertOrUpdate_succeeds sha256 ok (request.localAuthorizationList.getD [])
  unfold updateList AllSucceed
  rw [Bool.and_eq_true]
  cases request.updateType with
  | full =>
    dsimp only
    unfold replaceList
    split_ifs with hclear
    · rw [hsucceeds]
      simp [hclear]
    · simp [hclear]
  | differential =>
    dsimp only
    rw [hsucceeds]
    simp

/-- A refused update changes nothing exactly if it is refused before the list is touched, if
every statement succeeds, or if those that succeed write what is stored. -/
theorem refused_update_changes_nothing_iff (enabled : Bool) :
    (∀ answer ∈ handleSendLocalAuthorizationListReq sha256 ok request tables enabled,
      answer.1 ≠ .accepted → answer.2 = tables) ↔
    (enabled → Admitted ok request tables →
      AllSucceed ok request ∨ WritesStored sha256 ok request tables) := by
  unfold handleSendLocalAuthorizationListReq
  cases enabled with
  | false => simp
  | true =>
    by_cases hadmitted : Admitted ok request tables
    · rw [apply_of_admitted sha256 ok request tables hadmitted, ← updateList_unchanged_iff,
        ← updateList_succeeds_iff sha256 ok request tables]
      cases (updateList sha256 ok request tables).1 <;> cases ok.writeVersion <;>
        simp [hadmitted]
    · refine iff_of_true ?_ fun _ h => absurd h hadmitted
      intro answer hanswer hrefused
      obtain ⟨⟨status, written⟩, happly, rfl⟩ := Option.map_eq_some_iff.1 hanswer
      obtain ⟨hstatus, rfl⟩ := apply_of_not_admitted sha256 ok request tables hadmitted _ happly
      simp only [if_neg hstatus]

/-- A Full update that clears the list and then fails to insert an entry. -/
theorem full_update_loses_list :
    let token (id : String) : IdToken := ⟨id, "ISO14443"⟩
    let ok : Statements := { entry := fun _ => false }
    let request : SendLocalListRequest Bool :=
      { versionNumber := 2, updateType := .full,
        localAuthorizationList := some [⟨token "1", some true⟩, ⟨token "2", some true⟩] }
    let key := generateTokenHash id (token "1")
    let tables : ListTables String Bool := { list := fun k => if k = key then some true else none }
    ∃ written, handleSendLocalAuthorizationListReq id ok request tables true =
      some (.failed, written) ∧ tables.list key = some true ∧ written.list key = none := by
  intro token ok request key tables
  have happly : applyLocalAuthorizationList id ok request tables =
      some (.failed, { tables with list := fun _ => none }) := by
    have hduplicates : hasDuplicateInList (request.localAuthorizationList.getD []) = false := by
      decide +kernel
    rw [apply_of_admitted id ok request tables ⟨by decide, hduplicates, by simp [request]⟩]
    rfl
  refine ⟨{ tables with list := fun _ => none }, ?_, by simp [tables], rfl⟩
  simp [handleSendLocalAuthorizationListReq, happly]

end ListTables
end Everest.Ocpp.V2
