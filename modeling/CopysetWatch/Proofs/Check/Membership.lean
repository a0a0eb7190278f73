import CopysetWatch.Proofs.Check.Endpoints
import CopysetWatch.Proofs.Check.Health
import CopysetWatch.Simulation.ClusterView

/-!
# Leaders and memberships

Two accounts of a copyset name its replicas: the record of its leader, and the membership from which
it is rebuilt where a server cannot be asked. One writes a raft index behind each address and the
other does not, but both are judged by the servers behind them. The main statement is that the two
agree: where both name the same servers and one of these did not report the copyset, the class of
the copyset is the standing of its members, whichever account comes last.
-/

namespace CopysetWatch

/-- The members that are told are the replicas of the copysets asked for, each in its turn. -/
theorem ClusterView.membersOfAll_eq_ok {v : ClusterView} {pool : UInt32} {copysets : List UInt32}
    {told : List Members} (h : v.membersOfAll pool copysets = .ok told) :
    told.map Members.copyset = copysets ∧
      ∀ m ∈ told, v.members (.pack pool m.copyset) = some m.peers := by
  induction copysets generalizing told with
  | nil =>
    cases h
    simp
  | cons copyset rest ih =>
    rw [membersOfAll] at h
    cases hfirst : v.membersOf pool copyset with
    | error f =>
      rw [hfirst] at h
      cases h
    | ok m =>
      cases hrest : v.membersOfAll pool rest with
      | error f =>
        rw [hfirst, hrest] at h
        cases h
      | ok others =>
        rw [hfirst, hrest] at h
        cases h
        have hm : m.copyset = copyset ∧ v.members (.pack pool copyset) = some m.peers := by
          unfold membersOf at hfirst
          split at hfirst
          case h_1 peers hpeers =>
            cases hfirst
            exact ⟨rfl, hpeers⟩
          case h_2 => cases hfirst
        obtain ⟨rfl, hpeers⟩ := hm
        obtain ⟨rfl, hothers⟩ := ih hrest
        exact ⟨rfl, List.forall_mem_cons.mpr ⟨hpeers, hothers⟩⟩

namespace Check

/-! ### Members and their servers -/

/-- The servers of members whose ips have no colon are their addresses. -/
theorem map_serverAddress_address {members : List PeerEndpoint}
    (h : ∀ m ∈ members, ':' ∉ m.ip.toList) :
    (members.map PeerEndpoint.address).map serverAddress = members.map PeerEndpoint.address := by
  rw [List.map_map]
  exact List.map_congr_left fun m hm => m.serverAddress_address_iff.mpr (h m hm)

/-! ### What is told of the members -/

/-- The group of a location's pool holds its copyset. -/
theorem exists_mem_byPool {locations : List Location} {location : Location}
    (h : location ∈ locations) :
    ∃ group ∈ byPool locations, group.1 = location.pool ∧ location.copyset ∈ group.2 := by
  refine ⟨(location.pool, (locations.filter (·.pool == location.pool)).map Location.copyset), ?_,
    rfl, ?_⟩
  · refine List.mem_map.mpr ⟨location.pool, ?_, rfl⟩
    rw [Std.ExtTreeSet.mem_toList, Std.ExtTreeSet.mem_ofList]
    exact List.contains_iff_mem.mpr (List.mem_map_of_mem h)
  · exact List.mem_map_of_mem (List.mem_filter.mpr ⟨h, beq_self_eq_true location.pool⟩)

section

variable {settings : CheckSettings} {clock : Clock} {views : Nat → ClusterView} {start : Nat}

/-- The members that the gateway to a cluster tells in time are those that are set at a moment. -/
theorem members_of_inTime {address : String} {group : UInt32 × List UInt32} {told : List Members}
    (h : ((Answers.during settings (ClusterView.gateway clock views) start).membersOf address
      group).InTime settings.gatewayTimeout told) :
    ∃ moment, told.map Members.copyset = group.2 ∧
      ∀ m ∈ told, (views moment).members (.pack group.1 m.copyset) = some m.peers :=
  ⟨_, ClusterView.membersOfAll_eq_ok (Outcome.ofExcept_eq_value_iff.mp h.2)⟩

/-- A copyset that a server should hold has the members that are set for it at some moment. -/
theorem exists_members_of_mem_hosted {address : String} {hosted : Hosted}
    (h : hosted ∈ (Answers.during settings (ClusterView.gateway clock views) start).hosted settings
      address) :
    ∃ moment members, (views moment).members hosted.groupId = some members ∧
      hosted.peers = members.map PeerEndpoint.address := by
  unfold Answers.hosted at h
  split at h
  case h_2 => cases h
  case h_1 locations _ =>
    obtain ⟨group, -, h⟩ := List.mem_flatMap.mp h
    obtain ⟨m, hm, rfl⟩ := List.mem_map.mp h
    obtain ⟨told, hintime, hm⟩ := Gather.exists_inTime_of_mem_told hm
    obtain ⟨moment, -, hmembers⟩ := members_of_inTime hintime
    exact ⟨moment, m.peers, hmembers m hm, rfl⟩

/-- Where everything is told, a server should hold every copyset that is placed on it. -/
theorem exists_mem_hosted {address : String} {locations : List Location}
    (htells : (Answers.during settings (ClusterView.gateway clock views) start).TellsHosted settings
      address)
    (hplaced : ((Answers.during settings (ClusterView.gateway clock views) start).assignments
      address).ending = .value locations)
    {location : Location} (hlocation : location ∈ locations) :
    ∃ hosted ∈
      (Answers.during settings (ClusterView.gateway clock views) start).hosted settings address,
      hosted.groupId = location.groupId := by
  obtain ⟨others, hothers, hgroups⟩ := htells
  obtain rfl : others = locations := Outcome.value.inj (hothers.symm.trans hplaced)
  obtain ⟨group, hgroup, hpool, hcopyset⟩ := exists_mem_byPool hlocation
  obtain ⟨told, hintime⟩ := hgroups group hgroup
  obtain ⟨-, hcopysets, -⟩ := members_of_inTime hintime
  rw [← hcopysets] at hcopyset
  obtain ⟨m, hm, hsame⟩ := List.mem_map.mp hcopyset
  refine ⟨⟨.pack group.1 m.copyset, m.peers.map PeerEndpoint.address⟩, ?_, ?_⟩
  · unfold Answers.hosted
    rw [hplaced]
    refine List.mem_flatMap.mpr ⟨group, hgroup, ?_⟩
    rw [Gather.told_eq hintime]
    exact List.mem_map_of_mem hm
  · rw [hpool, hsame, Location.groupId]

end

/-! ### What is contributed -/

namespace Answers

variable (settings : CheckSettings) (a : Answers) (id : GroupId) (servers : List String)

/-- The records of a copyset go by one list of servers: there are none but those of leaders and of
followers that know a leader, and the peers of every leader, of which there are enough, are on these
servers. -/
structure LedOn : Prop where
  states : ∀ record, a.HasRecord settings id record →
    record.state = .leader ∨ record.state = .follower
  led : ∀ record, a.HasRecord settings id record → ¬record.isLeaderlessFollower
  enough : ∀ record, a.HasRecord settings id record → record.state = .leader →
    settings.replicationFactor.toNat ≤ record.peers.length
  peers : ∀ record, a.HasRecord settings id record → record.state = .leader →
    (record.peers.map serverAddress).Perm servers

/-- A leader reports a copyset, or the metadata service places it on an unreachable server. -/
def SpeaksOf : Prop :=
  (∃ record, a.HasRecord settings id record ∧ record.state = .leader) ∨
    ∃ address, a.IsUnreachable settings address ∧ ∃ locations,
      (a.assignments address).ending = .value locations ∧
      ∃ location ∈ locations, location.groupId = id

end Answers

section

variable {settings : CheckSettings} {a : Answers} {id : GroupId} {servers : List String}

/-- A contribution comes from a record or from a copyset that an unreachable server should hold. -/
theorem mem_contributions_iff {p : Problem} : p ∈ a.contributions settings id ↔
    (∃ record, a.HasRecord settings id record ∧
      contribution settings (a.reports settings) record = some p) ∨
    ∃ hosted, a.Hosts settings id hosted ∧
      peerStanding (a.reports settings) id hosted.peers = some p := by
  have hserver (address : String) : p ∈ a.contributionsOf settings id address ↔
      (∃ record ∈ (a.testimony settings address).recordList, record.groupId = id ∧
        contribution settings (a.reports settings) record = some p) ∨
      (a.testimony settings address = .unreachable ∧ ∃ hosted ∈ a.hosted settings address,
        hosted.groupId = id ∧ peerStanding (a.reports settings) id hosted.peers = some p) := by
    unfold Answers.contributionsOf
    cases htold : a.testimony settings address with
    | unreachable =>
      simp only [List.mem_filterMap, List.mem_filter, beq_iff_eq, Testimony.recordList,
        List.not_mem_nil, false_and, exists_false, false_or, true_and, and_assoc]
      refine exists_congr fun hosted => and_congr_right fun _ => and_congr_right ?_
      rintro rfl
      rfl
    | silent => simp [Testimony.recordList]
    | records rs => simp [Testimony.recordList, and_assoc]
  simp only [Answers.contributions, List.mem_flatMap, mem_distinct, hserver]
  constructor
  · rintro ⟨address, haddress, ⟨record, hrecord, hid, hp⟩ | ⟨htold, hosted, hhosted, hid, hp⟩⟩
    · exact .inl ⟨record, ⟨hid, address, haddress, hrecord⟩, hp⟩
    · exact .inr ⟨hosted, ⟨hid, address, ⟨haddress, htold⟩, hhosted⟩, hp⟩
  · rintro (⟨record, ⟨hid, address, haddress, hrecord⟩, hp⟩ |
      ⟨hosted, ⟨hid, address, ⟨haddress, htold⟩, hhosted⟩, hp⟩)
    · exact ⟨address, haddress, .inl ⟨record, hrecord, hid, hp⟩⟩
    · exact ⟨address, haddress, .inr ⟨htold, hosted, hhosted, hid, hp⟩⟩

/-- A leader with enough peers has the standing of its peers if some of them are offline. -/
theorem leaderStanding_eq_some {reports : Reports} {record : Raft.Record} {p : Problem}
    (henough : settings.replicationFactor.toNat ≤ record.peers.length)
    (hpeers : peerStanding reports record.groupId record.peers = some p) :
    leaderStanding settings reports record = some p := by
  rw [leaderStanding, if_neg (Nat.not_lt.mpr henough), hpeers]

variable {p : Problem}

/-- A leader whose peers are on servers of which some are offline contributes the standing of these
servers. -/
theorem contribution_of_leader (hled : a.LedOn settings id servers)
    (hstanding : ∀ peers : List String, (peers.map serverAddress).Perm servers →
      peerStanding (a.reports settings) id peers = some p)
    {record : Raft.Record} (hrecord : a.HasRecord settings id record)
    (hleader : record.state = .leader) :
    contribution settings (a.reports settings) record = some p := by
  have hpeers := hstanding record.peers (hled.peers record hrecord hleader)
  rw [← hrecord.1] at hpeers
  simp only [contribution, hleader]
  exact leaderStanding_eq_some (hled.enough record hrecord hleader) hpeers

/-- Where the leaders and the memberships of a copyset go by servers of which some are offline, and
there is one of either, all contributions are the standing of these servers, and so is the last. -/
theorem getLast?_contributions (hled : a.LedOn settings id servers)
    (hhosts : ∀ hosted, a.Hosts settings id hosted → (hosted.peers.map serverAddress).Perm servers)
    (hstanding : ∀ peers : List String, (peers.map serverAddress).Perm servers →
      peerStanding (a.reports settings) id peers = some p)
    (hsome : (∃ record, a.HasRecord settings id record ∧ record.state = .leader) ∨
      ∃ hosted, a.Hosts settings id hosted) :
    (a.contributions settings id).getLast? = some p := by
  have hsame : ∀ q ∈ a.contributions settings id, q = p := by
    intro q hq
    rcases mem_contributions_iff.mp hq with ⟨record, hrecord, hq⟩ | ⟨hosted, hhosted, hq⟩
    · rcases hled.states record hrecord with hleader | hfollower
      · rw [contribution_of_leader hled hstanding hrecord hleader] at hq
        exact (Option.some.inj hq).symm
      · simp only [contribution, hfollower] at hq
        cases hq
    · rw [hstanding hosted.peers (hhosts hosted hhosted)] at hq
      exact (Option.some.inj hq).symm
  have hmem : p ∈ a.contributions settings id := by
    rw [mem_contributions_iff]
    rcases hsome with ⟨record, hrecord, hleader⟩ | ⟨hosted, hhosted⟩
    · exact .inl ⟨record, hrecord, contribution_of_leader hled hstanding hrecord hleader⟩
    · exact .inr ⟨hosted, hhosted, hstanding hosted.peers (hhosts hosted hhosted)⟩
  have hne := List.ne_nil_of_mem hmem
  rw [List.getLast?_eq_some_getLast hne, hsame _ (List.getLast_mem hne)]

end

section

variable {settings : CheckSettings} {clock : Clock} {views : Nat → ClusterView} {start : Nat}
  {id : GroupId}
  {members : List PeerEndpoint}

/-- Members of whose servers some did not report a copyset have a standing. -/
theorem exists_peerStanding_of_members {reports : Reports} (hips : ∀ m ∈ members, ':' ∉ m.ip.toList)
    (hmissing : ∃ m ∈ members, ¬reports m.address id) :
    ∃ p, peerStanding reports id (members.map PeerEndpoint.address) = some p := by
  rw [← Option.ne_none_iff_exists', ne_eq, peerStanding_eq_none_iff]
  obtain ⟨m, hm, hoffline⟩ := hmissing
  intro honline
  have hserver := honline m.address (List.mem_map_of_mem hm)
  rw [m.serverAddress_address_iff.mpr (hips m hm)] at hserver
  exact hoffline hserver

/-- Where everything is told that has to be told, a copyset that somebody speaks of is reported by a
leader, or an unreachable server should hold it. -/
theorem Answers.SpeaksOf.led_or_hosted
    (h : (Answers.during settings (ClusterView.gateway clock views) start).SpeaksOf settings id)
    (hcomplete : Complete settings (.during settings (ClusterView.gateway clock views) start)) :
    (∃ record, (Answers.during settings (ClusterView.gateway clock views) start).HasRecord settings
      id record ∧ record.state = .leader) ∨
    ∃ hosted, (Answers.during settings (ClusterView.gateway clock views) start).Hosts settings id
      hosted := by
  refine h.imp_right ?_
  rintro ⟨address, haddress, locations, hplaced, location, hlocation, hid⟩
  obtain ⟨hosted, hhosted, hsame⟩ :=
    exists_mem_hosted (hcomplete.rebuilt address haddress) hplaced hlocation
  exact ⟨hosted, hsame.trans hid, address, haddress, hhosted⟩

/-- A copyset with the same members at all moments is rebuilt from them. -/
theorem Answers.Hosts.peers_eq {hosted : Hosted}
    (h : (Answers.during settings (ClusterView.gateway clock views) start).Hosts settings id hosted)
    (hmembers : ∀ moment, (views moment).members id = some members) :
    hosted.peers = members.map PeerEndpoint.address := by
  obtain ⟨hid, address, -, hhosted⟩ := h
  obtain ⟨moment, others, hothers, hpeers⟩ := exists_members_of_mem_hosted hhosted
  rw [hid, hmembers, Option.some.injEq] at hothers
  rw [hpeers, hothers]

end

/-- **Leaders and memberships agree.** Let a health check of a cluster succeed. If a copyset has
members on colon-free ips, its records are those of leaders and of followers that know one, every
leader lists enough peers and these are on the servers of the members, and a leader reports the
copyset or an unreachable server should hold it, then, as soon as the server of some member did not
report it, its class is the standing of its members: a minority or a majority of them is offline. -/
theorem inspect_standing_of_members {settings : CheckSettings} {clock : Clock}
    {views : Nat → ClusterView}
    {start taken : Nat} {r : Registry}
    (h : (inspect settings (ClusterView.gateway clock views)).run start = (.value r, taken))
    {id : GroupId} {members : List PeerEndpoint}
    (hmembers : ∀ moment, (views moment).members id = some members)
    (hips : ∀ m ∈ members, ':' ∉ m.ip.toList)
    (hled : (Answers.during settings (ClusterView.gateway clock views) start).LedOn settings id
      (members.map PeerEndpoint.address))
    (htold : (Answers.during settings (ClusterView.gateway clock views) start).SpeaksOf settings id)
    (hmissing : ∃ m ∈ members, ¬r.isReportedOn m.address id) :
    ∃ p, (p = .minorityPeerOffline ∨ p = .majorityPeerOffline) ∧
      peerStanding r.isReportedOn id (members.map PeerEndpoint.address) = some p ∧
      r.classificationOf id = some (.problem p) := by
  let a := Answers.during settings (ClusterView.gateway clock views) start
  have hcourse := courses_inspect settings (ClusterView.gateway clock views) start
  rw [h] at hcourse
  obtain ⟨hcomplete, -, hjudge⟩ := hcourse.of_value
  obtain ⟨listing, hlisting⟩ := hcomplete.listing
  have hreports : r.isReportedOn = a.reports settings :=
    (consistent_and_sameServers_of_judge hjudge).2.reports.trans reports_evidence
  obtain ⟨p, hp⟩ := exists_peerStanding_of_members hips hmissing
  refine ⟨p, eq_or_eq_of_peerStanding_eq_some hp, hp, ?_⟩
  have hservers := map_serverAddress_address hips
  have hstanding : ∀ peers : List String,
      (peers.map serverAddress).Perm (members.map PeerEndpoint.address) →
      peerStanding (a.reports settings) id peers = some p := by
    intro peers hperm
    rw [← hreports, ← hp]
    exact peerStanding_of_perm (hservers.symm ▸ hperm)
  have hhosts : ∀ hosted, a.Hosts settings id hosted →
      (hosted.peers.map serverAddress).Perm (members.map PeerEndpoint.address) := by
    intro hosted hhosted
    rw [hhosted.peers_eq hmembers, hservers]
  have hsome := htold.led_or_hosted hcomplete
  have hlast := getLast?_contributions hled hhosts hstanding hsome
  have hnone : (resident (a.evidence settings)).find? (·.groupId == id) = none := by
    rw [find?_resident_eq_none_iff]
    intro address hleaderless
    obtain ⟨record, hrecord, hid, hfollower⟩ := hleaderless.reported
    exact hled.led record ⟨hid, address, hleaderless.listed, hrecord⟩ hfollower
  have hid : id ∈ r.total := by
    rw [total_judge hjudge, mem_total_register]
    rcases hsome with ⟨record, ⟨hid, address, haddress, hrecord⟩, -⟩ |
      ⟨hosted, hid, address, haddress, hhosted⟩
    · exact .reported address haddress record hrecord hid
    · exact .rebuilt address haddress hosted hhosted hid
  rw [classificationOf_judge hjudge hlisting hid, hnone, hlast]

/-- A cluster of one copyset with three members, of which only the leader can be reached. -/
def lonelyLeader : ClusterView where
  servers :=
    [⟨"10.0.0.1:8200", .online⟩, ⟨"10.0.0.2:8200", .online⟩, ⟨"10.0.0.3:8200", .offline⟩]
  resident _ := [⟨1, 7⟩]
  members _ := some [⟨"10.0.0.3", 8200⟩, ⟨"10.0.0.1", 8200⟩, ⟨"10.0.0.2", 8200⟩]
  copysets := [⟨1, 7, 5, false⟩]
  raft address :=
    if address = "10.0.0.1:8200" then
      some [.ofList [("groupId", "4294967303"), ("state", "LEADER"),
        ("last_log_id", "term=1,index=10"),
        ("peers", "10.0.0.1:8200:0 10.0.0.2:8200:0 10.0.0.3:8200:0")]]
    else none

/-- The leader and two servers that cannot be asked agree on a majority of the members that is
offline, although the last scan of the copyset failed as well. -/
theorem inspect_standing_of_members_lonelyLeader : ∃ r taken p,
    (inspect {} (ClusterView.gateway .ofThirtyYears fun _ => lonelyLeader)).run 0 =
        (.value r, taken) ∧
      peerStanding r.isReportedOn (.pack 1 7) ["10.0.0.3:8200", "10.0.0.1:8200", "10.0.0.2:8200"] =
        some p ∧ r.classificationOf (.pack 1 7) = some (.problem p) := by
  let a := Answers.during {} (ClusterView.gateway .ofThirtyYears fun _ => lonelyLeader) 0
  have hmissing : ((inspect {} (ClusterView.gateway .ofThirtyYears fun _ => lonelyLeader)).run
      0).1.value?.map (·.isReportedOn "10.0.0.2:8200" (.pack 1 7)) = some false := by
    decide +kernel
  have hrecords : ∀ address ∈ a.addresses, ∀ record ∈ (a.testimony {} address).recordList,
      record.state = .leader ∧ ¬record.isLeaderlessFollower ∧ 3 ≤ record.peers.length ∧
        (record.peers.map serverAddress).Perm
          ["10.0.0.3:8200", "10.0.0.1:8200", "10.0.0.2:8200"] := by
    decide +kernel
  have hled : a.LedOn {} (.pack 1 7) ["10.0.0.3:8200", "10.0.0.1:8200", "10.0.0.2:8200"] := by
    refine ⟨?_, ?_, ?_, ?_⟩
    · rintro record ⟨-, address, haddress, hrecord⟩
      exact .inl (hrecords address haddress record hrecord).1
    · rintro record ⟨-, address, haddress, hrecord⟩
      exact (hrecords address haddress record hrecord).2.1
    · rintro record ⟨-, address, haddress, hrecord⟩ -
      exact (hrecords address haddress record hrecord).2.2.1
    · rintro record ⟨-, address, haddress, hrecord⟩ -
      exact (hrecords address haddress record hrecord).2.2.2
  have htold : a.SpeaksOf {} (.pack 1 7) := by
    have hunreachable : a.IsUnreachable {} "10.0.0.2:8200" := by
      constructor <;> decide +kernel
    exact .inr ⟨_, hunreachable, [⟨1, 7⟩], rfl, ⟨1, 7⟩, List.mem_singleton_self _, rfl⟩
  cases hrun : (inspect {} (ClusterView.gateway .ofThirtyYears fun _ => lonelyLeader)).run 0 with
  | mk result taken =>
    rw [hrun] at hmissing
    cases result with
    | fault f => cases hmissing
    | panic => cases hmissing
    | value r =>
      have hreported : ¬r.isReportedOn "10.0.0.2:8200" (.pack 1 7) :=
        Bool.not_eq_true _ ▸ Option.some.inj hmissing
      have hips : ∀ m ∈ [(⟨"10.0.0.3", 8200⟩ : PeerEndpoint), ⟨"10.0.0.1", 8200⟩,
          ⟨"10.0.0.2", 8200⟩], ':' ∉ m.ip.toList := by
        decide +kernel
      obtain ⟨p, -, hp, hclass⟩ := inspect_standing_of_members hrun (fun _ => rfl) hips hled htold
        ⟨⟨"10.0.0.2", 8200⟩, by decide, hreported⟩
      exact ⟨r, taken, p, rfl, hp, hclass⟩

end Check
end CopysetWatch
