import CopysetWatch.Check.Evidence
import CopysetWatch.Proofs.Ascending
import CopysetWatch.Proofs.Hearing

/-!
# Testimonies of the chunk servers

The testimonies are kept by address. In whatever order the servers are heard, and however often
one of them was listed, there is one testimony for each address, the addresses ascend, and each
testimony is what became of asking that server.
-/

namespace CopysetWatch.Check

/-- The addresses among some, each once and in ascending order. -/
def distinct (addresses : List String) : List String :=
  (Std.ExtTreeSet.ofList addresses).toList

theorem ascending_distinct (addresses : List String) : Ascending (distinct addresses) :=
  ascending_toList _

@[simp] theorem mem_distinct {addresses : List String} {address : String} :
    address ∈ distinct addresses ↔ address ∈ addresses := by
  simp [distinct, Std.ExtTreeSet.mem_ofList]

/-- Where every entry holds what belongs to its address, the address decides what is found. -/
theorem lookup_of_forall {β : Type} (entries : List (String × β)) {value : String → β}
    (h : ∀ entry ∈ entries, entry.2 = value entry.1) (address : String) :
    entries.lookup address =
      if address ∈ entries.map Prod.fst then some (value address) else none := by
  induction entries with
  | nil => rfl
  | cons entry rest ih =>
    rw [List.forall_mem_cons] at h
    obtain ⟨first, found⟩ := entry
    obtain ⟨hfirst, hrest⟩ := h
    obtain rfl : found = value first := hfirst
    rw [List.lookup_cons, ih hrest, List.map_cons]
    by_cases haddress : address = first
    · simp [haddress]
    · have hne : (address == first) = false := beq_false_of_ne haddress
      simp only [hne, List.mem_cons, haddress, false_or]

/-- Where every entry holds what belongs to its address, the order of the entries is of no
account. -/
theorem lookup_perm {β : Type} {entries entries' : List (String × β)} {value : String → β}
    (hperm : entries.Perm entries') (h : ∀ entry ∈ entries, entry.2 = value entry.1)
    (address : String) : entries.lookup address = entries'.lookup address := by
  have h' : ∀ entry ∈ entries', entry.2 = value entry.1 :=
    fun entry hentry => h entry (hperm.mem_iff.mpr hentry)
  rw [lookup_of_forall entries h, lookup_of_forall entries' h']
  simp only [(hperm.map Prod.fst).mem_iff]

/-- One testimony for each of some addresses, in ascending order. -/
def oneEach (addresses : List String) (testimony : String → Testimony) :
    List (String × Testimony) :=
  (distinct addresses).map fun address => (address, testimony address)

/-- Noting what was heard gives each heard server its testimony and leaves the others alone. -/
theorem getElem?_foldl_insert {heard : List (Arrival String (List Raft.Fields))}
    {testimony : String → Testimony}
    (h : ∀ a ∈ heard, Testimony.ofAnswer a.result = testimony a.target)
    (found : Std.ExtTreeMap String Testimony) (address : String) :
    (heard.foldl (fun found a => found.insert a.target (.ofAnswer a.result)) found)[address]? =
      if address ∈ heard.map Arrival.target then some (testimony address) else found[address]? := by
  induction heard generalizing found with
  | nil => simp
  | cons a rest ih =>
    rw [List.forall_mem_cons] at h
    rw [List.foldl_cons, ih h.2, h.1]
    by_cases hrest : address ∈ rest.map Arrival.target
    · simp [hrest]
    · by_cases ha : a.target = address
      · simp [hrest, ha]
      · simp [hrest, Std.ExtTreeMap.getElem?_insert, ha, Ne.symm ha]

/-- A map that holds the testimonies of some addresses lists one for each of them. -/
theorem toList_eq_oneEach {found : Std.ExtTreeMap String Testimony} {addresses : List String}
    {testimony : String → Testimony} (h : ∀ address : String,
      found[address]? = if address ∈ addresses then some (testimony address) else none) :
    found.toList = oneEach addresses testimony := by
  have hkeys : found.keys = distinct addresses := by
    apply Ascending.eq_of_mem_iff found.ordered_keys (ascending_distinct addresses)
    intro address
    rw [Std.ExtTreeMap.mem_keys, Std.ExtTreeMap.mem_iff_isSome_getElem?, h, mem_distinct]
    split <;> simp_all
  have hentries : ∀ entry ∈ found.toList, entry = (entry.1, testimony entry.1) := by
    rintro ⟨address, t⟩ hentry
    rw [Std.ExtTreeMap.mem_toList_iff_getElem?_eq_some, h] at hentry
    split at hentry
    · simpa [eq_comm] using hentry
    · cases hentry
  calc found.toList = found.toList.map fun entry => (entry.1, testimony entry.1) := by
        rw [← List.map_congr_left hentries, List.map_id']
    _ = found.keys.map fun address => (address, testimony address) := by
        rw [← Std.ExtTreeMap.map_fst_toList_eq_keys, List.map_map]
        rfl
    _ = oneEach addresses testimony := by rw [hkeys, oneEach]

/-- In every order of arrival, the testimonies are those of the distinct addresses. -/
theorem testimonies_eq {timeout : Duration} {query : String → Reply (List Raft.Fields)}
    {addresses : List String} {heard : List (Arrival String (List Raft.Fields))}
    (h : Gather.Heard timeout query addresses heard) :
    testimonies heard = oneEach addresses fun address =>
      .ofAnswer (Gather.arrival timeout query address).result := by
  let testimony (address : String) : Testimony :=
    .ofAnswer (Gather.arrival timeout query address).result
  have htestimony : ∀ a ∈ heard, Testimony.ofAnswer a.result = testimony a.target := by
    intro a ha
    obtain ⟨address, -, rfl⟩ := List.mem_map.mp (h.mem_iff.mp ha)
    rw [Gather.target_arrival]
  have htargets (address : String) : address ∈ heard.map Arrival.target ↔ address ∈ addresses := by
    rw [(List.Perm.map Arrival.target h).mem_iff]
    simp
  apply toList_eq_oneEach
  intro address
  have hfound := getElem?_foldl_insert htestimony ∅ address
  simpa only [htargets, Std.ExtTreeMap.getElem?_empty] using hfound

section

variable {addresses : List String} {testimony : String → Testimony}

/-- The servers that could not be asked are in ascending order. -/
theorem unreachableServers_oneEach :
    unreachableServers (oneEach addresses testimony) =
      (distinct addresses).filter fun address => testimony address == .unreachable := by
  simp [unreachableServers, oneEach, List.filter_map, Function.comp_def]

theorem mem_unreachableServers {address : String} :
    address ∈ unreachableServers (oneEach addresses testimony) ↔
      address ∈ addresses ∧ testimony address = .unreachable := by
  simp [unreachableServers_oneEach]

/-- The servers that reported a follower without a leader are in ascending order. -/
theorem candidateServers_oneEach :
    candidateServers (oneEach addresses testimony) =
      (distinct addresses).filter fun address =>
        (testimony address).recordList.any Raft.Record.isLeaderlessFollower := by
  simp only [candidateServers, oneEach, List.filter_map, List.map_map, Function.comp_def,
    List.map_id']
  congr 1
  funext address
  rw [Bool.eq_iff_iff]
  simp [candidatesOf]

theorem mem_candidateServers {address : String} :
    address ∈ candidateServers (oneEach addresses testimony) ↔
      address ∈ addresses ∧
        ∃ record ∈ (testimony address).recordList, record.isLeaderlessFollower := by
  simp [candidateServers_oneEach]

/-- A server that reported a follower without a leader was not unreachable. -/
theorem not_mem_unreachableServers {address : String}
    (h : address ∈ candidateServers (oneEach addresses testimony)) :
    address ∉ unreachableServers (oneEach addresses testimony) := by
  obtain ⟨-, record, hrecord, -⟩ := mem_candidateServers.mp h
  intro hunreachable
  rw [(mem_unreachableServers.mp hunreachable).2] at hrecord
  cases hrecord

/-- The testimony of a server is found by its address. -/
theorem lookup_oneEach (address : String) :
    (oneEach addresses testimony).lookup address =
      if address ∈ addresses then some (testimony address) else none := by
  have hvalue : ∀ entry ∈ oneEach addresses testimony, entry.2 = testimony entry.1 := by
    simp [oneEach]
  have hlookup := lookup_of_forall _ hvalue address
  simpa [oneEach, Function.comp_def] using hlookup

end

end CopysetWatch.Check
