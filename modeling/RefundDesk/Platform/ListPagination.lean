import RefundDesk.Platform.Reads
import RefundDesk.Repositories.Approvals
import RefundDesk.Repositories.Runs
import RefundDesk.Config.Releases

namespace RefundDesk

open Transaction Relation Pagination PilotRepository PilotPrismaRepository

-- A page that a user has loaded, with the rows at that time.
structure PageLoad where
  context : PilotTenantContext
  rows    : PilotRows
  cursor  : Option String
  page    : PilotPage PilotRequestRecord

-- The loads of a user who follows the cursors of a scope, the latest one first. Between two loads
-- the store changes in any way that the transactions of the repositories can change it.
inductive ListTraversal (fieldKeyring : FieldEncryptionKeyring) (actorId : String)
    (scope : PilotListScope) (limit : Nat) : List PageLoad → Prop
  | first {context rows page} : context.actor.id = actorId →
    (listRefundRequests fieldKeyring context scope limit none).Commits rows page rows →
    ListTraversal fieldKeyring actorId scope limit [⟨context, rows, none, page⟩]
  | next {load loads context rows cursor page} :
    ListTraversal fieldKeyring actorId scope limit (load :: loads) →
    load.page.nextCursor = some cursor →
    ReflTransGen (fun s s' => ∃ now, Change now (fun _ _ _ _ => True) s s')
      load.rows.store rows.store →
    context.actor.id = actorId →
    (listRefundRequests fieldKeyring context scope limit (some cursor)).Commits rows page rows →
    ListTraversal fieldKeyring actorId scope limit
      (⟨context, rows, some cursor, page⟩ :: load :: loads)

def requestKey (row : String × RefundRequestDetail) : ListKey :=
  listKey row.2.request.createdAt row.1

def keyId (key : ListKey) : String :=
  (ofLex (OrderDual.ofDual key)).2

@[simp]
theorem keyId_listKey (time : Timestamp) (id : String) : keyId (listKey time id) = id := rfl

namespace PageLoad

variable (scope : PilotListScope) (actorId : String) (load : PageLoad)

-- The requests of the scope when the page is loaded.
def Admits (id : String) (detail : RefundRequestDetail) : Prop :=
  load.rows.store.requests.find? id = some detail ∧
    (repositoryScope scope).admits actorId detail

-- The request of the cursor is still one of the scope.
def CursorAdmitted : Prop :=
  ∀ id ∈ load.cursor, ∃ detail, load.Admits scope actorId id detail

def cursorKey : Option ListKey :=
  load.cursor.bind fun id =>
    (load.rows.store.requests.find? id).map fun detail => requestKey (id, detail)

-- The first request of the scope behind the cursor.
structure FirstBehindCursor (id : String) (detail : RefundRequestDetail) : Prop where
  admitted : load.Admits scope actorId id detail
  behind   : ∀ key ∈ load.cursorKey, key < requestKey (id, detail)
  first    : ∀ id' detail', load.Admits scope actorId id' detail' →
    (∀ key ∈ load.cursorKey, key < requestKey (id', detail')) →
    requestKey (id, detail) ≤ requestKey (id', detail')

def admitted : List (String × RefundRequestDetail) :=
  load.rows.store.requests.entries.filter fun e => (repositoryScope scope).admits actorId e.2

def keyLoad : Load ListKey :=
  loadOf requestKey load.cursorKey (load.admitted scope actorId)

variable {scope actorId load}

theorem mem_admitted {id : String} {detail : RefundRequestDetail} :
    (id, detail) ∈ load.admitted scope actorId ↔ load.Admits scope actorId id detail := by
  simp [admitted, Admits, Table.mem_entries_iff]

theorem mem_keyLoad {key : ListKey} :
    key ∈ (load.keyLoad scope actorId).selected ↔
      ∃ id detail, load.Admits scope actorId id detail ∧ requestKey (id, detail) = key := by
  simp [keyLoad, mem_selected, mem_admitted]

theorem keyLoad_pairwise : (load.keyLoad scope actorId).selected.Pairwise (· < ·) := by
  refine selected_pairwise ?_
  have hids : ((load.admitted scope actorId).map (·.1)).Nodup :=
    load.rows.store.requests.keys_nodup.sublist (List.filter_sublist.map _)
  have hkeys : (((load.admitted scope actorId).map requestKey).map keyId).Nodup := by
    rw [List.map_map]
    exact hids
  exact hkeys.of_map _

end PageLoad

-- What a load of the repository returns.
theorem commits_listRefundRequests {fieldKeyring : FieldEncryptionKeyring}
    {context : PilotTenantContext} {scope : PilotListScope} {limit : Nat} {cursor : Option String}
    {rows rows' : PilotRows} {p : PilotPage PilotRequestRecord} :
    (listRefundRequests fieldKeyring context scope limit cursor).Commits rows p rows' ↔
      rows' = rows ∧ (1 ≤ limit ∧ limit ≤ 100) ∧ ∃ records,
        (findPage (·.request.createdAt)
          (rows.store.requests.entries.filter fun e =>
            (repositoryScope scope).admits context.actor.id e.2)
          rows.store.requests.find? cursor limit).mapM (recordOf fieldKeyring context rows) =
            .ok records ∧
        p = page (·.id) records limit := by
  simp only [PilotPrismaRepository.listRefundRequests, PilotRepository.listRefundRequests, commits_bind, commits_require,
    commits_get, commits_fromExcept, commits_pure]
  constructor
  case mp =>
    rintro ⟨_, _, ⟨_, _, ⟨hlimit, rfl⟩, _, _, ⟨rfl, rfl⟩, rfl, rfl⟩, _, _, ⟨rfl, rfl⟩, records, _,
      ⟨hrecords, rfl⟩, rfl, rfl⟩
    exact ⟨rfl, hlimit, records, hrecords, rfl⟩
  case mpr =>
    rintro ⟨rfl, hlimit, records, hrecords, rfl⟩
    exact ⟨_, _, ⟨(), _, ⟨hlimit, rfl⟩, _, _, ⟨rfl, rfl⟩, rfl, rfl⟩, _, _, ⟨rfl, rfl⟩, records, _,
      ⟨hrecords, rfl⟩, rfl, rfl⟩

theorem id_of_recordOf {fieldKeyring : FieldEncryptionKeyring} {context : PilotTenantContext}
    {rows : PilotRows} {e : String × RefundRequestDetail} {record : PilotRequestRecord}
    (h : recordOf fieldKeyring context rows e = .ok record) : record.id = e.1 := by
  unfold recordOf at h
  split at h
  case h_1 => simp at h
  case h_2 requester _ =>
    unfold mapRequest at h
    simp only at h
    split at h
    case h_1 => simp at h
    case h_2 chargeId _ =>
      cases hresource : requestResource e.2.request with
      | error e => simp [hresource, bind, Except.bind] at h
      | ok resource =>
        cases hjustification : justificationOf fieldKeyring context rows e.1
            (decide (e.2.request.requesterUserId = context.actor.id)) with
        | error e => simp [hresource, hjustification, bind, Except.bind] at h
        | ok justification =>
          obtain rfl : _ = record := by
            simpa only [hresource, hjustification, bind, Except.bind, pure, Except.pure,
              Except.ok.injEq] using h
          rfl

-- A request stays in the store under its id with the instant of its creation.
theorem kept_of_changes {s s' : Store}
    (h : ReflTransGen (fun s s' => ∃ now, Change now (fun _ _ _ _ => True) s s') s s')
    {id : String} {detail : RefundRequestDetail} (hd : s.requests.find? id = some detail) :
    ∃ detail', s'.requests.find? id = some detail' ∧
      detail'.request.financialSnapshot = detail.request.financialSnapshot := by
  induction h with
  | refl => exact ⟨detail, hd, rfl⟩
  | tail _ hchange ih =>
    obtain ⟨now, hchange⟩ := hchange
    obtain ⟨detail₁, hd₁, hsnapshot₁⟩ := ih
    obtain ⟨detail₂, hd₂, -, hsnapshot₂⟩ := hchange.decisions_kept hd₁
    exact ⟨detail₂, hd₂, hsnapshot₂.trans hsnapshot₁⟩

theorem requestKey_of_snapshot {id : String} {detail detail' : RefundRequestDetail}
    (h : detail'.request.financialSnapshot = detail.request.financialSnapshot) :
    requestKey (id, detail') = requestKey (id, detail) := by
  simp only [RefundRequest.financialSnapshot, RefundRequest.FinancialSnapshot.mk.injEq] at h
  simp [requestKey, h]

namespace PageLoad

variable {fieldKeyring : FieldEncryptionKeyring} {actorId : String} {scope : PilotListScope}
  {limit : Nat} {load : PageLoad}

-- The page has the requests whose keys a page of the keys has.
structure Agrees (actorId : String) (scope : PilotListScope) (limit : Nat) (load : PageLoad) :
    Prop where
  ids        : load.page.items.map (·.id) =
    ((load.keyLoad scope actorId).page limit).map keyId
  nextCursor : load.page.nextCursor = ((load.keyLoad scope actorId).next limit).map keyId

def CursorFound (load : PageLoad) : Prop :=
  ∀ id ∈ load.cursor, ∃ detail, load.rows.store.requests.find? id = some detail

-- The listing skips a request where the cursor has left the scope.
theorem skipped_iff (hfound : load.CursorFound) {key : ListKey} :
    (load.keyLoad scope actorId).skipped = some key ↔
      ¬load.CursorAdmitted scope actorId ∧ ∃ id detail,
        load.FirstBehindCursor scope actorId id detail ∧ requestKey (id, detail) = key := by
  have hsorted : (load.keyLoad scope actorId).selected.Pairwise (· < ·) := keyLoad_pairwise
  constructor
  case mp =>
    intro hskipped
    obtain ⟨c, ks, hc, hleft, hkept⟩ := Load.of_skipped hskipped
    have hkey : key ∈ (load.keyLoad scope actorId).kept := hkept ▸ List.mem_cons_self ..
    obtain ⟨id, detail, hadmits, rfl⟩ := mem_keyLoad.mp (Load.mem_kept.mp hkey).1
    obtain ⟨c', hc', hlt⟩ := Load.cursor_lt_skipped hskipped
    obtain rfl := Option.some.inj (hc.symm.trans hc')
    have hcursorKey : load.cursorKey = some c := hc
    refine ⟨fun hadmitted => ?_, id, detail, ⟨hadmits, ?_, ?_⟩, rfl⟩
    · obtain ⟨cursorId, hcursor, hmap⟩ := Option.bind_eq_some_iff.mp hcursorKey
      obtain ⟨cursorDetail, hfind, rfl⟩ := Option.map_eq_some_iff.mp hmap
      obtain ⟨cursorDetail', hadmits'⟩ := hadmitted cursorId hcursor
      obtain rfl := Option.some.inj (hfind.symm.trans hadmits'.1)
      exact hleft (mem_keyLoad.mpr ⟨cursorId, cursorDetail, hadmits', rfl⟩)
    · intro key hkey
      obtain rfl := Option.some.inj (hcursorKey.symm.trans hkey)
      exact hlt
    · intro id' detail' hadmits' hbehind'
      have hkept' : requestKey (id', detail') ∈ (load.keyLoad scope actorId).kept :=
        Load.mem_kept.mpr ⟨mem_keyLoad.mpr ⟨id', detail', hadmits', rfl⟩,
          fun k hk => le_of_lt (hbehind' k hk)⟩
      have hkeptSorted := Load.kept_pairwise hsorted
      rw [hkept, List.pairwise_cons] at hkeptSorted
      rcases List.mem_cons.mp (hkept ▸ hkept') with heq | hks
      · exact le_of_eq heq.symm
      · exact le_of_lt (hkeptSorted.1 _ hks)
  case mpr =>
    rintro ⟨hleft, id, detail, hfirst, rfl⟩
    unfold CursorAdmitted at hleft
    push Not at hleft
    obtain ⟨cursorId, hcursor, hnone⟩ := hleft
    obtain ⟨cursorDetail, hfind⟩ := hfound cursorId hcursor
    have hcursorKey : load.cursorKey = some (requestKey (cursorId, cursorDetail)) := by
      simp only [cursorKey, Option.mem_def.mp hcursor, Option.bind_some, hfind, Option.map_some]
    have hout : requestKey (cursorId, cursorDetail) ∉ (load.keyLoad scope actorId).selected := by
      intro hmem
      obtain ⟨id', detail', hadmits', heq⟩ := mem_keyLoad.mp hmem
      obtain ⟨-, rfl⟩ := listKey_inj.mp heq
      exact hnone detail' hadmits'
    have hmem : requestKey (id, detail) ∈ (load.keyLoad scope actorId).kept :=
      Load.mem_kept.mpr ⟨mem_keyLoad.mpr ⟨id, detail, hfirst.admitted, rfl⟩,
        fun k hk => le_of_lt (hfirst.behind k hk)⟩
    cases hkept : (load.keyLoad scope actorId).kept with
    | nil => simp [hkept] at hmem
    | cons k ks =>
      have hkeptSorted := Load.kept_pairwise hsorted
      rw [hkept, List.pairwise_cons] at hkeptSorted
      have hk : k ∈ (load.keyLoad scope actorId).kept := hkept ▸ List.mem_cons_self ..
      obtain ⟨hselected, hle⟩ := Load.mem_kept.mp hk
      obtain ⟨id', detail', hadmits', rfl⟩ := mem_keyLoad.mp hselected
      have hfirst' := hfirst.first id' detail' hadmits' fun c hc => by
        obtain rfl := Option.some.inj (hcursorKey.symm.trans hc)
        exact lt_of_le_of_ne (hle _ hcursorKey) fun heq => hout (heq ▸ hselected)
      have heq : requestKey (id', detail') = requestKey (id, detail) := by
        rcases List.mem_cons.mp (hkept ▸ hmem) with heq | hks
        · exact heq.symm
        · exact absurd (hkeptSorted.1 _ hks) (not_lt_of_ge hfirst')
      have hcursor' : (load.keyLoad scope actorId).cursor =
          some (requestKey (cursorId, cursorDetail)) := hcursorKey
      simp [Load.skipped, hcursor', hout, hkept, heq]

theorem findPage_eq (scope : PilotListScope) (actorId : String) (limit : Nat) (hcursor : load.CursorFound) :
    findPage (·.request.createdAt) (load.admitted scope actorId) load.rows.store.requests.find?
        load.cursor limit =
      findMany requestKey load.cursorKey limit (load.admitted scope actorId) := by
  unfold findPage cursorKey
  cases hc : load.cursor with
  | none => rfl
  | some id =>
    obtain ⟨detail, hdetail⟩ := hcursor id hc
    simp only [hdetail, Option.bind_some, Option.map_some]
    rfl

theorem agrees_of_commits (hactor : load.context.actor.id = actorId)
    (hcursor : load.CursorFound)
    (h : (PilotPrismaRepository.listRefundRequests fieldKeyring load.context scope limit
      load.cursor).Commits load.rows load.page load.rows) :
    0 < limit ∧ load.Agrees actorId scope limit := by
  obtain ⟨-, hlimit, records, hrecords, hpage⟩ := commits_listRefundRequests.mp h
  have hfound := findPage_eq scope actorId limit hcursor
  rw [hactor] at hrecords
  rw [PageLoad.admitted] at hfound
  rw [hfound] at hrecords
  have hids : records.map (·.id) = ((load.keyLoad scope actorId).page limit).map keyId := by
    rw [keyLoad, ← map_findMany, List.map_map]
    exact map_of_mapM (fun e record he => id_of_recordOf he) hrecords
  have hlength : records.length = ((load.keyLoad scope actorId).page limit).length := by
    simpa using congrArg List.length hids
  refine ⟨hlimit.1, ?ids, ?nextCursor⟩
  case ids => rw [hpage]; exact hids
  case nextCursor =>
    rw [hpage]
    simp only [PilotPrismaRepository.page, Load.next, hlength]
    split
    · rw [← List.getLast?_map, hids, List.getLast?_map]
    · rfl

end PageLoad

namespace ListTraversal

variable {fieldKeyring : FieldEncryptionKeyring} {actorId : String} {scope : PilotListScope}
  {limit : Nat} {load : PageLoad} {loads : List PageLoad} {id : String}

-- The request of the next cursor, which is the last one of the page.
theorem request_of_next {key : ListKey} (h : (load.keyLoad scope actorId).next limit = some key) :
    ∃ detail, load.rows.store.requests.find? (keyId key) = some detail ∧
      requestKey (keyId key, detail) = key := by
  have hpage := Pagination.Traversal.mem_page_of_next h
  obtain ⟨id, detail, hadmits, rfl⟩ := PageLoad.mem_keyLoad.mp
    (Load.mem_selected_of_mem_rest (Load.page_sublist.subset hpage))
  exact ⟨detail, hadmits.1, rfl⟩

-- A traversal of the requests is a traversal of their keys.
theorem keys (h : ListTraversal fieldKeyring actorId scope limit loads) :
    0 < limit ∧ Pagination.Traversal limit (loads.map (·.keyLoad scope actorId)) ∧
      ∀ load ∈ loads, load.Agrees actorId scope limit ∧ load.CursorFound := by
  induction h with
  | @first context rows page hactor hcommits =>
    let load : PageLoad := ⟨context, rows, none, page⟩
    have hfound : load.CursorFound := by simp [PageLoad.CursorFound, load]
    obtain ⟨hlimit, hagrees⟩ := PageLoad.agrees_of_commits hactor hfound hcommits
    exact ⟨hlimit, .first PageLoad.keyLoad_pairwise, by simpa using ⟨hagrees, hfound⟩⟩
  | @next previous loads context rows cursor page _ hnext hchanges hactor hcommits ih =>
    obtain ⟨hlimit, htraversal, hagrees⟩ := ih
    rw [(hagrees previous (by simp)).1.nextCursor] at hnext
    obtain ⟨key, hkey, rfl⟩ := Option.map_eq_some_iff.mp hnext
    obtain ⟨detail, hdetail, hrequestKey⟩ := request_of_next hkey
    obtain ⟨detail', hdetail', hsnapshot⟩ := kept_of_changes hchanges hdetail
    let load : PageLoad := ⟨context, rows, some (keyId key), page⟩
    have hfound : load.CursorFound := fun id hid => ⟨detail', Option.some.inj hid ▸ hdetail'⟩
    obtain ⟨-, hagrees'⟩ := PageLoad.agrees_of_commits hactor hfound hcommits
    refine ⟨hlimit, ?_, List.forall_mem_cons.mpr ⟨⟨hagrees', hfound⟩, hagrees⟩⟩
    have hcursorKey : load.cursorKey = some key := by
      simp only [PageLoad.cursorKey, load, Option.bind_some, hdetail', Option.map_some,
        requestKey_of_snapshot hsnapshot, hrequestKey]
    have hload : load.keyLoad scope actorId = ⟨some key, (load.keyLoad scope actorId).selected⟩ :=
      congrArg (Load.mk · _) hcursorKey
    rw [List.map_cons, hload]
    exact htraversal.next hkey PageLoad.keyLoad_pairwise

-- A request of an earlier load has the same key in the latest one.
theorem key_kept (h : ListTraversal fieldKeyring actorId scope limit loads) :
    ∀ load ∈ loads, ∀ id detail, load.rows.store.requests.find? id = some detail →
      ∀ latest ∈ loads.head?, ∃ detail', latest.rows.store.requests.find? id = some detail' ∧
        requestKey (id, detail') = requestKey (id, detail) := by
  induction h with
  | first hactor hcommits =>
    intro load hload id detail hdetail latest hlatest
    obtain rfl := Option.some.inj hlatest
    obtain rfl := List.mem_singleton.mp hload
    exact ⟨detail, hdetail, rfl⟩
  | @next previous loads context rows cursor page _ hnext hchanges hactor hcommits ih =>
    intro load hload id detail hdetail latest hlatest
    obtain rfl := Option.some.inj hlatest
    rcases List.mem_cons.mp hload with rfl | hload
    · exact ⟨detail, hdetail, rfl⟩
    · obtain ⟨detail₁, hd₁, hkey₁⟩ := ih load hload id detail hdetail previous rfl
      obtain ⟨detail₂, hd₂, hsnapshot⟩ := kept_of_changes hchanges hd₁
      exact ⟨detail₂, hd₂, (requestKey_of_snapshot hsnapshot).trans hkey₁⟩

end ListTraversal

-- The requests that the user has been shown, in the order of the pages.
def returnedIds (loads : List PageLoad) : List String :=
  loads.reverse.flatMap fun load => load.page.items.map (·.id)

-- The request is one of the scope whenever a page is loaded.
def StaysAdmitted (scope : PilotListScope) (actorId : String) (loads : List PageLoad)
    (id : String) : Prop :=
  ∀ load ∈ loads, ∃ detail, load.Admits scope actorId id detail

namespace ListTraversal

variable {fieldKeyring : FieldEncryptionKeyring} {actorId : String} {scope : PilotListScope}
  {limit : Nat} {load latest : PageLoad} {loads : List PageLoad} {id : String}
  {detail : RefundRequestDetail}

theorem returnedIds_eq (h : ∀ load ∈ loads, load.Agrees actorId scope limit) :
    returnedIds loads =
      (returned limit (loads.map (·.keyLoad scope actorId))).map keyId := by
  induction loads with
  | nil => rfl
  | cons load loads ih =>
    have hall := List.forall_mem_cons.mp h
    have hbefore := ih hall.2
    simp only [returnedIds, returned, List.map_cons, List.reverse_cons, List.flatMap_append,
      List.flatMap_singleton, List.map_append] at hbefore ⊢
    rw [hbefore, hall.1.ids]

-- A key that a load has shown is the key of its request in the latest load.
theorem key_of_mem_returned {key : ListKey}
    (h : ListTraversal fieldKeyring actorId scope limit (latest :: loads))
    (hkey : key ∈ returned limit ((latest :: loads).map (·.keyLoad scope actorId))) :
    ∃ detail, latest.rows.store.requests.find? (keyId key) = some detail ∧
      requestKey (keyId key, detail) = key := by
  obtain ⟨keyLoad, hkeyLoad, hpage⟩ := List.mem_flatMap.mp hkey
  obtain ⟨load, hload, rfl⟩ := List.mem_map.mp (List.mem_reverse.mp hkeyLoad)
  obtain ⟨id, detail, hadmits, rfl⟩ := PageLoad.mem_keyLoad.mp
    (Load.mem_selected_of_mem_rest (Load.page_sublist.subset hpage))
  exact h.key_kept load hload id detail hadmits.1 latest rfl

theorem returnedIds_nodup (h : ListTraversal fieldKeyring actorId scope limit (latest :: loads)) :
    (returnedIds (latest :: loads)).Nodup := by
  obtain ⟨-, htraversal, hagrees⟩ := h.keys
  rw [returnedIds_eq fun load hload => (hagrees load hload).1]
  refine List.Nodup.map_on ?_ (htraversal.returned_pairwise.imp ne_of_lt)
  intro key hkey key' hkey' heq
  obtain ⟨detail, hdetail, hrequestKey⟩ := h.key_of_mem_returned hkey
  obtain ⟨detail', hdetail', hrequestKey'⟩ := h.key_of_mem_returned hkey'
  rw [heq] at hdetail hrequestKey
  obtain rfl := Option.some.inj (hdetail.symm.trans hdetail')
  exact hrequestKey.symm.trans hrequestKey'

theorem mem_returnedIds (h : ListTraversal fieldKeyring actorId scope limit (latest :: loads))
    (hdetail : latest.rows.store.requests.find? id = some detail) :
    id ∈ returnedIds (latest :: loads) ↔ requestKey (id, detail) ∈
      returned limit ((latest :: loads).map (·.keyLoad scope actorId)) := by
  obtain ⟨-, -, hagrees⟩ := h.keys
  rw [returnedIds_eq fun load hload => (hagrees load hload).1, List.mem_map]
  constructor
  case mp =>
    rintro ⟨key, hkey, rfl⟩
    obtain ⟨detail', hdetail', hrequestKey⟩ := h.key_of_mem_returned hkey
    obtain rfl := Option.some.inj (hdetail.symm.trans hdetail')
    rwa [hrequestKey]
  case mpr => exact fun hkey => ⟨_, hkey, rfl⟩

theorem returned_iff_not_skipped
    (h : ListTraversal fieldKeyring actorId scope limit (latest :: loads))
    (hend : latest.page.nextCursor = none) (hstays : StaysAdmitted scope actorId (latest :: loads) id) :
    (returnedIds (latest :: loads)).count id = 1 ↔
      ∀ load ∈ latest :: loads, load.CursorAdmitted scope actorId ∨
        ∀ detail, ¬load.FirstBehindCursor scope actorId id detail := by
  obtain ⟨hlimit, htraversal, hagrees⟩ := h.keys
  obtain ⟨detail, hadmits⟩ := hstays latest (List.mem_cons_self ..)
  have hkeyOf : ∀ load ∈ latest :: loads, ∀ detail',
      load.rows.store.requests.find? id = some detail' →
      requestKey (id, detail') = requestKey (id, detail) := by
    intro load hload detail' hdetail'
    obtain ⟨detail₁, hdetail₁, heq⟩ := h.key_kept load hload id detail' hdetail' latest rfl
    obtain rfl := Option.some.inj (hadmits.1.symm.trans hdetail₁)
    exact heq.symm
  have hselected : ∀ keyLoad ∈ (latest :: loads).map (·.keyLoad scope actorId),
      requestKey (id, detail) ∈ keyLoad.selected := by
    intro keyLoad hkeyLoad
    obtain ⟨load, hload, rfl⟩ := List.mem_map.mp hkeyLoad
    obtain ⟨detail', hadmits'⟩ := hstays load hload
    exact PageLoad.mem_keyLoad.mpr ⟨id, detail', hadmits', hkeyOf load hload detail' hadmits'.1⟩
  have hnone : (latest.keyLoad scope actorId).next limit = none := by
    have hnext := (hagrees latest (List.mem_cons_self ..)).1.nextCursor
    rw [hend] at hnext
    exact Option.map_eq_none_iff.mp hnext.symm
  have hcount : (returnedIds (latest :: loads)).count id = 1 ↔ id ∈ returnedIds (latest :: loads) := by
    rw [h.returnedIds_nodup.count]
    split <;> simp_all
  rw [hcount, h.mem_returnedIds hadmits.1]
  constructor
  case mp =>
    intro hreturned load hload
    by_contra hnot
    push Not at hnot
    obtain ⟨hleft, detail', hfirst⟩ := hnot
    have hskipped := (PageLoad.skipped_iff (hagrees load hload).2).mpr
      ⟨hleft, id, detail', hfirst, hkeyOf load hload detail' hfirst.admitted.1⟩
    exact htraversal.skipped_not_mem_returned _ (List.mem_map_of_mem hload) _ hskipped hreturned
  case mpr =>
    intro hkeeps
    rcases htraversal.mem_returned_or_skipped hlimit hselected (by simp [hnone]) with hmem | hskip
    · exact hmem
    · obtain ⟨keyLoad, hkeyLoad, hskipped⟩ := hskip
      obtain ⟨load, hload, rfl⟩ := List.mem_map.mp hkeyLoad
      obtain ⟨hleft, id', detail', hfirst, heq⟩ :=
        (PageLoad.skipped_iff (hagrees load hload).2).mp hskipped
      obtain ⟨-, rfl⟩ := listKey_inj.mp heq
      rcases hkeeps load hload with hadmitted | hfree
      · exact absurd hadmitted hleft
      · exact absurd hfirst (hfree detail')

-- A user who is given a further cursor has been shown full pages of different requests so far.
theorem loads_le (h : ListTraversal fieldKeyring actorId scope limit (latest :: loads))
    (hnext : latest.page.nextCursor ≠ none) :
    (latest :: loads).length * limit ≤ latest.rows.store.requests.entries.length := by
  obtain ⟨-, htraversal, hagrees⟩ := h.keys
  have hids : returnedIds (latest :: loads) =
      (returned limit ((latest :: loads).map (·.keyLoad scope actorId))).map keyId :=
    returnedIds_eq fun load hload => (hagrees load hload).1
  have hkeyNext : (latest.keyLoad scope actorId).next limit ≠ none := by
    intro hnone
    exact hnext (by rw [(hagrees latest (List.mem_cons_self ..)).1.nextCursor, hnone]; rfl)
  have hlength := htraversal.length_returned _ rfl hkeyNext
  have hsubset : returnedIds (latest :: loads) ⊆ latest.rows.store.requests.keys := by
    intro id hid
    rw [hids] at hid
    obtain ⟨key, hkey, rfl⟩ := List.mem_map.mp hid
    obtain ⟨detail, hdetail, -⟩ := h.key_of_mem_returned hkey
    exact Table.mem_keys_iff.mpr ⟨detail, hdetail⟩
  have hle := (h.returnedIds_nodup.subperm hsubset).length_le
  rw [hids, List.length_map, hlength, List.length_map, Table.keys, List.length_map] at hle
  exact hle

end ListTraversal

-- The requests of a user do not leave the scopes that do not ask for their state.
theorem ListTraversal.cursorAdmitted {fieldKeyring : FieldEncryptionKeyring} {actorId : String}
    {scope : PilotListScope} {limit : Nat} {loads : List PageLoad}
    (h : ListTraversal fieldKeyring actorId scope limit loads)
    (hscope : scope ≠ .awaitingMyApproval) :
    ∀ load ∈ loads, load.CursorAdmitted scope actorId := by
  have hkept {detail detail' : RefundRequestDetail}
      (hsnapshot : detail'.request.financialSnapshot = detail.request.financialSnapshot)
      (hadmits : (repositoryScope scope).admits actorId detail) :
      (repositoryScope scope).admits actorId detail' := by
    simp only [RefundRequest.financialSnapshot, RefundRequest.FinancialSnapshot.mk.injEq]
      at hsnapshot
    cases scope with
    | myRequests         => simpa [repositoryScope, RequestListScope.admits, hsnapshot] using hadmits
    | awaitingMyApproval => exact absurd rfl hscope
    | allActivity        => rfl
  induction h with
  | first _ _ => simp [PageLoad.CursorAdmitted]
  | @next previous loads context rows cursor page h hnext hchanges _ _ ih =>
    refine List.forall_mem_cons.mpr ⟨fun id hid => ?_, ih⟩
    obtain rfl := Option.some.inj hid
    obtain ⟨-, -, hagrees⟩ := h.keys
    rw [(hagrees previous (List.mem_cons_self ..)).1.nextCursor] at hnext
    obtain ⟨key, hkey, rfl⟩ := Option.map_eq_some_iff.mp hnext
    have hpage := Pagination.Traversal.mem_page_of_next hkey
    obtain ⟨id, detail, hadmits, rfl⟩ := PageLoad.mem_keyLoad.mp
      (Load.mem_selected_of_mem_rest (Load.page_sublist.subset hpage))
    obtain ⟨detail', hdetail', hsnapshot⟩ := kept_of_changes hchanges hadmits.1
    exact ⟨detail', hdetail', hkept hsnapshot hadmits.2⟩

-- A user is shown every request that stays in the scope exactly once if and only if no load skips
-- one of them, which happens where the request of the cursor has left the scope. A user who is given
-- a further cursor has been shown full pages so far.
theorem list_pagination {fieldKeyring : FieldEncryptionKeyring} {actorId : String}
    {scope : PilotListScope} {limit : Nat} {latest : PageLoad} {loads : List PageLoad}
    (h : ListTraversal fieldKeyring actorId scope limit (latest :: loads)) :
    (latest.page.nextCursor ≠ none →
      (latest :: loads).length * limit ≤ latest.rows.store.requests.entries.length) ∧
    (latest.page.nextCursor = none →
      ((∀ id, StaysAdmitted scope actorId (latest :: loads) id →
          (returnedIds (latest :: loads)).count id = 1) ↔
        ∀ load ∈ latest :: loads, load.CursorAdmitted scope actorId ∨
          ∀ id detail, load.FirstBehindCursor scope actorId id detail →
            ¬StaysAdmitted scope actorId (latest :: loads) id)) := by
  refine ⟨h.loads_le, fun hend => ⟨?mp, ?mpr⟩⟩
  case mp =>
    intro hreturned load hload
    by_cases hadmitted : load.CursorAdmitted scope actorId
    · exact .inl hadmitted
    · refine .inr fun id detail hfirst hstays => ?_
      have hkeeps := (h.returned_iff_not_skipped hend hstays).mp (hreturned id hstays) load hload
      exact hkeeps.resolve_left hadmitted detail hfirst
  case mpr =>
    intro hkeeps id hstays
    refine (h.returned_iff_not_skipped hend hstays).mpr fun load hload => ?_
    refine (hkeeps load hload).imp_right fun hfree detail hfirst => ?_
    exact hfree id detail hfirst hstays

namespace Pilot

def listedId (n : Nat) : String :=
  "00000000-0000-4000-8000-00000000000" ++ toString n

def listedInput (n : Nat) : TenantRepository.CreateRefundRequestInput :=
  { input with
    paymentKey      := "pi_" ++ toString n
    paymentIntentId := some ("pi_" ++ toString n)
  }

-- Three requests that wait for the approver, and the first of the list when it is canceled.
def awaited : Store :=
  [1, 2, 3].foldl
    (fun (s : Store) (n : Nat) =>
      (TenantRepository.createRefundRequest (1000 * n) (listedId n) (listedInput n)).after s)
    .pilot

def awaitedLess : Store :=
  (TenantRepository.onRequest 4000 (listedId 3) fun env =>
    RequestRepository.cancelPendingRequest env "requester" 4000).after awaited

def listKeyring : FieldEncryptionKeyring where
  aes     := plainAes
  keys    := ⟨⟨"v1", (applicationKey '1').key⟩, .empty⟩
  checked := by decide +kernel

def listedRows (store : Store) : PilotRows where
  store          := store
  profiles       := .empty
  policies       := []
  onboarding     := .empty
  alertIds       := .empty
  justifications := [1, 2, 3].foldl
    (fun t n => t.insert (listedId n) {
      algorithm         := "aes-256-gcm"
      keyVersion        := "v1"
      nonce             := ""
      ciphertext        := Base64Url.encode (plainAes.cipher "" [] [] "not as described").1
      authenticationTag := ""
    })
    .empty
  decisions      := .empty
  auditEvents    := []

def awaitingContext : PilotTenantContext where
  actor              := { id := "approver", approverEnabled := true, stripeUserId := "usr_2" }
  environment        := .test
  installationId     := "i"
  installationStatus := .active
  stripeAccountId    := "acct_1"
  tenantId           := "t"
  tenantStatus       := .active

def loadedPage (store : Store) (cursor : Option String) :
    Except PilotFailure (PilotPage PilotRequestRecord × PilotRows) :=
  (PilotPrismaRepository.listRefundRequests listKeyring awaitingContext .awaitingMyApproval 1
    cursor).run (listedRows store)

def loaded (store : Store) (cursor : Option String) : PageLoad where
  context := awaitingContext
  rows    := listedRows store
  cursor  := cursor
  page    := ((loadedPage store cursor).toOption.map (·.1)).getD ⟨[], none⟩

def shown : List PageLoad := [
  loaded awaitedLess (some (listedId 1)),
  loaded awaitedLess (some (listedId 3)),
  loaded awaited none
]

theorem loaded_commits {store : Store} {cursor : Option String}
    (h : (loadedPage store cursor).toOption.isSome) :
    (PilotPrismaRepository.listRefundRequests listKeyring awaitingContext .awaitingMyApproval 1
      cursor).Commits (listedRows store) (loaded store cursor).page (listedRows store) := by
  cases hrun : loadedPage store cursor with
  | error e => simp [hrun, Except.toOption] at h
  | ok result =>
    obtain ⟨page, rows⟩ := result
    have hcommits : (PilotPrismaRepository.listRefundRequests listKeyring awaitingContext
        .awaitingMyApproval 1 cursor).Commits (listedRows store) page rows := hrun
    obtain ⟨rfl, -⟩ := commits_listRefundRequests.mp hcommits
    simpa [loaded, hrun, Except.toOption] using hcommits

theorem loaded_first {store : Store} (h : (loadedPage store none).toOption.isSome) :
    ListTraversal listKeyring "approver" .awaitingMyApproval 1 [loaded store none] :=
  .first rfl (loaded_commits h)

theorem loaded_next {store : Store} {cursor : String} {load : PageLoad} {loads : List PageLoad}
    (hloads : ListTraversal listKeyring "approver" .awaitingMyApproval 1 (load :: loads))
    (hcursor : load.page.nextCursor = some cursor)
    (hruns : ReflTransGen (fun s s' => ∃ now, Change now (fun _ _ _ _ => True) s s')
      load.rows.store store)
    (h : (loadedPage store (some cursor)).toOption.isSome) :
    ListTraversal listKeyring "approver" .awaitingMyApproval 1
      (loaded store (some cursor) :: load :: loads) :=
  hloads.next hcursor hruns rfl (loaded_commits h)

-- The cancellation and the three pages, evaluated together.
theorem answers_of_shown :
    (awaited.requests.find? (listedId 3)).isSome ∧
    ((TenantRepository.onRequest 4000 (listedId 3) fun env =>
      RequestRepository.cancelPendingRequest env "requester" 4000).run awaited).toOption.isSome ∧
    (loadedPage awaited none).toOption.isSome ∧
    (loaded awaited none).page.nextCursor = some (listedId 3) ∧
    (loadedPage awaitedLess (some (listedId 3))).toOption.isSome ∧
    (loaded awaitedLess (some (listedId 3))).page.nextCursor = some (listedId 1) ∧
    (loadedPage awaitedLess (some (listedId 1))).toOption.isSome := by
  decide +kernel

theorem awaitedLess_changed (hfound : (awaited.requests.find? (listedId 3)).isSome)
    (hcancel : ((TenantRepository.onRequest 4000 (listedId 3) fun env =>
      RequestRepository.cancelPendingRequest env "requester" 4000).run awaited).toOption.isSome) :
    Change 4000 (fun _ _ _ _ => True) awaited awaitedLess := by
  obtain ⟨detail, hdetail⟩ := Option.isSome_iff_exists.mp hfound
  obtain ⟨result, hresult⟩ := Option.isSome_iff_exists.mp hcancel
  rcases TenantRepository.commits_onRequest.mp
    (commits_after (a := result.1) (by rw [hresult, Option.map_some])) with
    ⟨hnone, -⟩ | ⟨detail', result, detail'', hdetail', hcancel, -, hstore⟩
  · simp [hdetail] at hnone
  · rw [awaitedLess, hstore]
    exact .request hdetail' (.single ⟨.cancelPendingRequest "requester" 4000, result, trivial,
      RequestCall.outcome_of_run hcancel⟩)

theorem shown_traversal : ListTraversal listKeyring "approver" .awaitingMyApproval 1 shown := by
  obtain ⟨hfound, hcancel, hfirst, hcursor₁, hsecond, hcursor₂, hthird⟩ := answers_of_shown
  have hchanged := awaitedLess_changed hfound hcancel
  exact loaded_next (loaded_next (loaded_first hfirst) hcursor₁ (.single ⟨4000, hchanged⟩) hsecond)
    hcursor₂ .refl hthird

end Pilot

-- The first request of the list is canceled after it has been shown, and the one behind it is never
-- shown.
theorem list_pagination_counterexample :
    ListTraversal Pilot.listKeyring "approver" .awaitingMyApproval 1 Pilot.shown ∧
      (∀ latest ∈ Pilot.shown.head?, latest.page.nextCursor = none) ∧
      StaysAdmitted .awaitingMyApproval "approver" Pilot.shown (Pilot.listedId 2) ∧
      (returnedIds Pilot.shown).count (Pilot.listedId 2) = 0 := by
  refine ⟨Pilot.shown_traversal, ?_, ?_, by decide +kernel⟩
  · intro latest hlatest
    obtain rfl := Option.some.inj hlatest
    decide +kernel
  · have hadmits : ∀ load ∈ Pilot.shown,
        (load.rows.store.requests.find? (Pilot.listedId 2)).any fun detail =>
          (repositoryScope .awaitingMyApproval).admits "approver" detail := by
      decide +kernel
    intro load hload
    obtain ⟨detail, hdetail, hscope⟩ := (Option.any_eq_true ..).mp (hadmits load hload)
    exact ⟨detail, hdetail, hscope⟩

theorem list_pagination_shown :
    (∀ id, StaysAdmitted .awaitingMyApproval "approver" Pilot.shown id →
        (returnedIds Pilot.shown).count id = 1) ↔
      ∀ load ∈ Pilot.shown, load.CursorAdmitted .awaitingMyApproval "approver" ∨
        ∀ id detail, load.FirstBehindCursor .awaitingMyApproval "approver" id detail →
          ¬StaysAdmitted .awaitingMyApproval "approver" Pilot.shown id :=
  (list_pagination Pilot.shown_traversal).2 (by decide +kernel)

end RefundDesk
