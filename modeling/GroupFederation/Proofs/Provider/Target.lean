import GroupFederation.Proofs.Http.Address
import GroupFederation.Provider.Build

/-!
# What partners are asked for

A question to a partner is put at one of a few endpoints. Its path goes along fixed segments and
along one segment for every local name that belongs to the endpoint. From the target of a request
the endpoint and its names can be read off again, so that no name leads to another endpoint; names
of one dot or of two are the exception, since addresses resolve them.
-/

namespace GroupFederation

open Text.Percent (decodeText? encodeSegment)

/-! ## Requests that arrive -/

namespace Http.Client

/-- What has arrived stays in front. -/
theorem arrived_follow (client : Client) (redirections elapsed : Nat) (arrived : List Request)
    (request : Request) :
    arrived <+: (client.follow redirections elapsed arrived request).arrived := by
  fun_induction follow client redirections elapsed arrived request with
  | case1 => exact List.prefix_rfl
  | case9 _ _ _ _ _ _ _ _ _ _ inductionHypothesis =>
      exact (List.prefix_append ..).trans inductionHypothesis
  | _ => exact List.prefix_append ..

/-- The first request to arrive is the one that was sent, if it reaches a server. -/
theorem head?_arrived_follow (client : Client) (redirections elapsed : Nat) (request : Request) :
    (client.follow redirections elapsed [] request).arrived.head? =
      if client.network request = .unreachable then none else some request := by
  have further {redirections elapsed : Nat} {next : Request} :
      (client.follow redirections elapsed [request] next).arrived.head? = some request := by
    obtain ⟨rest, behind⟩ := client.arrived_follow redirections elapsed [request] next
    rw [← behind]
    rfl
  fun_cases follow client redirections elapsed [] request
  all_goals simp_all

/-- The requests that are sent to an address ask for what it leads to. -/
theorem head?_arrived_send (client : Client) (method : String) {address : String} {url : Url}
    (isAddress : Url.parse? address = some url) (headers : Url → Headers) (body : String) :
    ∃ request, request.url = url ∧
      (client.send method address headers body).arrived.head? =
        if client.network request = .unreachable then none else some request := by
  rw [send, isAddress]
  exact ⟨_, rfl, client.head?_arrived_follow 10 0 _⟩

end Http.Client

namespace Provider

/-- The requests for a question that reached a server, in order. -/
def sentFor (provider : Provider) (earlier : List Query) : Query → List Http.Request
  | .memberships person => (provider.memberships earlier person).sent
  | .membership person group => (provider.membership earlier person group).sent
  | .members group => (provider.members earlier group).sent
  | .allGroups => (provider.allGroups earlier).sent

/-! ## Endpoints -/

/-- What partners can be asked for, with the local names that belong to it. -/
inductive Endpoint where
  /-- The groups of a person, with the membership interface. -/
  | userGroups (person : String)
  /-- One group of a person. -/
  | userGroup (person group : String)
  /-- The members of a group. -/
  | members (group : String)
  /-- The OpenSocial collection of the groups of a person. -/
  | groups (person : String)
  /-- The OpenSocial collection of the members of a group. -/
  | people (group : String)
  deriving DecidableEq, Repr

namespace Endpoint

/-- The local names. -/
def names : Endpoint → List String
  | userGroups person => [person]
  | userGroup person group => [person, group]
  | members group => [group]
  | groups person => [person]
  | people group => [group]

/-- The segments that stand between the names. -/
def fixedSegments : List String :=
  ["user", "groups", "members", "people", "@all"]

/-- The segments of the path, with the local names in a written form. -/
def along (write : String → String) : Endpoint → List String
  | userGroups person => ["user", write person, "groups"]
  | userGroup person group => ["user", write person, "groups", write group]
  | members group => ["members", write group]
  | groups person => ["groups", write person]
  | people group => ["people", "@all", write group]

/-- What the segments of the path mean. -/
def meaning (endpoint : Endpoint) : List String :=
  endpoint.along id

/-- The segments of the path as they are sent. -/
def segments (endpoint : Endpoint) : List String :=
  endpoint.along encodeSegment

/-- The resource below the address of a partner. -/
def resource (endpoint : Endpoint) : String :=
  String.ofList (Http.Url.writePath (endpoint.segments.map String.toList))

/-- The address of the resource. -/
def url (base : Http.Url.Base) (endpoint : Endpoint) : Http.Url where
  isSecure := false
  account := none
  host := base.host
  port := base.port
  segments := base.segments ++ endpoint.segments
  query := none

/-- Whether no name is resolved as a part of an address. -/
def IsDotless (endpoint : Endpoint) : Prop :=
  ∀ name ∈ endpoint.names, name ≠ "." ∧ name ≠ ".."

instance (endpoint : Endpoint) : Decidable endpoint.IsDotless :=
  inferInstanceAs (Decidable (∀ name ∈ endpoint.names, name ≠ "." ∧ name ≠ ".."))

/-- Where a question is put. With OpenSocial there is no endpoint for a single group, so that the
group is looked for among all groups of the person. -/
def ofQuery? : Kind → Query → Option Endpoint
  | .voot2, .memberships person => some (userGroups (Urn.localPart .person person))
  | .voot2, .membership person group =>
      some (userGroup (Urn.localPart .person person) (Urn.localPart .group group))
  | .voot2, .members group => some (members (Urn.localPart .group group))
  | .openSocial, .memberships person => some (groups (Urn.localPart .person person))
  | .openSocial, .membership person _ => some (groups (Urn.localPart .person person))
  | .openSocial, .members group => some (people (Urn.localPart .group group))
  | _, _ => none

/-- The path tells endpoints and names apart. -/
theorem meaning_injective {endpoint other : Endpoint}
    (same : endpoint.meaning = other.meaning) : endpoint = other := by
  cases endpoint <;> cases other <;> simp_all [meaning, along]

/-- The segments that are sent stand for what the path means. -/
theorem mapM_decodeText?_segments (endpoint : Endpoint) :
    endpoint.segments.mapM decodeText? = some endpoint.meaning := by
  have user : decodeText? "user" = some "user" := by decide
  have groups : decodeText? "groups" = some "groups" := by decide
  have members : decodeText? "members" = some "members" := by decide
  have people : decodeText? "people" = some "people" := by decide
  have everyone : decodeText? "@all" = some "@all" := by decide
  cases endpoint <;>
    simp [segments, meaning, along, user, groups, members, people, everyone,
      Text.Percent.decodeText?_encodeSegment]

/-- The segments of a path are fixed ones and names. -/
theorem of_mem_along {write : String → String} {endpoint : Endpoint} {segment : String}
    (member : segment ∈ endpoint.along write) :
    segment ∈ fixedSegments ∨ ∃ name ∈ endpoint.names, segment = write name := by
  cases endpoint <;>
    simp only [along, names, fixedSegments, List.mem_cons, List.not_mem_nil] at member ⊢ <;>
    grind

/-- Without names of dots all segments stand for themselves. -/
theorem isPlain_of_mem_segments {endpoint : Endpoint} (dotless : endpoint.IsDotless)
    {segment : String} (member : segment ∈ endpoint.segments) :
    Http.Url.IsPlain segment.toList := by
  rcases of_mem_along member with fixed | ⟨name, isName, rfl⟩
  · have plain : ∀ segment ∈ fixedSegments,
        segment.toList.all (fun character =>
          Http.Url.isPathChar character && !Http.Url.isSlash character) = true ∧
          ¬Http.Url.IsDots segment.toList := by
      decide
    obtain ⟨stays, dotless⟩ := plain segment fixed
    refine ⟨fun character member => ?_, dotless⟩
    simpa using List.all_eq_true.mp stays character member
  · obtain ⟨noDot, noDots⟩ := dotless name isName
    exact Http.Url.isPlain_encodeSegment noDot noDots

/-- No segment holds what would end it. -/
theorem ends_not_mem_of_mem_segments {endpoint : Endpoint} (dotless : endpoint.IsDotless)
    {segment : String} (member : segment ∈ endpoint.segments) :
    '/' ∉ segment.toList ∧ '?' ∉ segment.toList := by
  have stays := (isPlain_of_mem_segments dotless member).stays
  constructor
  · intro slash
    exact absurd (stays _ slash).2 (by decide)
  · intro mark
    exact absurd (stays _ mark).1 (by decide)

/-- Different endpoints have different resources. -/
theorem resource_injective {endpoint other : Endpoint} (dotless : endpoint.IsDotless)
    (dotlessOther : other.IsDotless) (same : endpoint.resource = other.resource) :
    endpoint = other := by
  have plain {endpoint : Endpoint} (dotless : endpoint.IsDotless) :
      ∀ name ∈ endpoint.segments.map String.toList, ∀ character ∈ name,
        Http.Url.isSlash character = false := by
    intro name member character inName
    obtain ⟨segment, isSegment, rfl⟩ := List.mem_map.mp member
    exact ((isPlain_of_mem_segments dotless isSegment).stays character inName).2
  have paths := Http.Url.writePath_injective (plain dotless) (plain dotlessOther)
    (String.ofList_injective same)
  have segments : endpoint.segments = other.segments :=
    (List.map_inj_right fun _ _ => String.toList_inj.mp).mp paths
  apply meaning_injective
  rw [← Option.some_inj, ← mapM_decodeText?_segments, ← mapM_decodeText?_segments, segments]

/-- The target is the path along the partner's segments and the resource. -/
theorem toList_target_url (base : Http.Url.Base) (endpoint : Endpoint) :
    (endpoint.url base).target.toList =
      Http.Url.writePath (base.segments.map String.toList) ++ endpoint.resource.toList := by
  have filled : (endpoint.url base).segments ≠ [] := by
    cases endpoint <;> simp [url, segments, along]
  rw [Http.Url.toList_target filled rfl, url, resource]
  simp [Http.Url.writePath]

/-- An endpoint and its names can be read off the target. -/
theorem target_injective {base : Http.Url.Base} {endpoint other : Endpoint}
    (dotless : endpoint.IsDotless) (dotlessOther : other.IsDotless)
    (same : (endpoint.url base).target = (other.url base).target) : endpoint = other := by
  have targets := congrArg String.toList same
  rw [toList_target_url, toList_target_url] at targets
  exact resource_injective dotless dotlessOther
    (String.toList_inj.mp (List.append_cancel_left targets))

end Endpoint

/-! ## Questions at their endpoints -/

theorem Voot.membershipsResource_eq (person : String) :
    membershipsResource person =
      (Endpoint.userGroups (Urn.localPart .person person)).resource := by
  rw [← String.toList_inj]
  simp [membershipsResource, Partner.personSegment, Endpoint.resource, Endpoint.segments,
    Endpoint.along, Http.Url.writePath]

theorem Voot.membershipResource_eq (person group : String) :
    membershipResource person group =
      (Endpoint.userGroup (Urn.localPart .person person)
        (Urn.localPart .group group)).resource := by
  rw [← String.toList_inj]
  simp [membershipResource, membershipsResource, Partner.personSegment, Partner.groupSegment,
    Endpoint.resource, Endpoint.segments, Endpoint.along, Http.Url.writePath]

theorem Voot.membersResource_eq (group : String) :
    membersResource group = (Endpoint.members (Urn.localPart .group group)).resource := by
  rw [← String.toList_inj]
  simp [membersResource, Partner.groupSegment, Endpoint.resource, Endpoint.segments,
    Endpoint.along, Http.Url.writePath]

theorem OpenSocial.groupsResource_eq (person : String) :
    groupsResource person = (Endpoint.groups (Urn.localPart .person person)).resource := by
  rw [← String.toList_inj]
  simp [groupsResource, Partner.personSegment, Endpoint.resource, Endpoint.segments,
    Endpoint.along, Http.Url.writePath]

theorem OpenSocial.peopleResource_eq (group : String) :
    peopleResource group = (Endpoint.people (Urn.localPart .group group)).resource := by
  rw [← String.toList_inj]
  simp [peopleResource, Partner.groupSegment, Endpoint.resource, Endpoint.segments,
    Endpoint.along, Http.Url.writePath]

section Targets

variable {base : Http.Url.Base} {config : Config}

/-- What is asked for a question is the resource of its endpoint. -/
theorem sentFor_eq {query : Query} {endpoint : Endpoint}
    (isEndpoint : Endpoint.ofQuery? config.kind query = some endpoint) (network : Http.Network)
    (earlier : List Query) :
    (ofConfig network config).sentFor earlier query =
      (config.get network endpoint.resource).arrived := by
  cases kind : config.kind <;> cases query <;> rw [kind] at isEndpoint <;> cases isEndpoint
  all_goals
    simp only [ofConfig, kind, sentFor, Voot.provider, OpenSocial.provider, Config.replyTo,
      Voot.membershipsResource_eq, Voot.membershipResource_eq, Voot.membersResource_eq,
      OpenSocial.groupsResource_eq, OpenSocial.peopleResource_eq]

/-- The first request for a question leads along the partner's segments and those of the
endpoint. -/
theorem head?_sentFor (located : config.url = base.written) {query : Query} {endpoint : Endpoint}
    (isEndpoint : Endpoint.ofQuery? config.kind query = some endpoint)
    (dotless : endpoint.IsDotless) (network : Http.Network) (earlier : List Query) :
    ∃ request,
      request.url = endpoint.url base ∧
      ((ofConfig network config).sentFor earlier query).head? =
        if network request = .unreachable then none else some request := by
  have filled : endpoint.segments.map String.toList ≠ [] := by
    cases endpoint <;> simp [Endpoint.segments, Endpoint.along]
  have plain : ∀ name ∈ endpoint.segments.map String.toList, Http.Url.IsPlain name := by
    intro name member
    obtain ⟨segment, isSegment, rfl⟩ := List.mem_map.mp member
    exact Endpoint.isPlain_of_mem_segments dotless isSegment
  have isAddress := Http.Url.parse?_below base filled plain
  rw [← located, ← Endpoint.resource, List.map_map] at isAddress
  have original : endpoint.segments.map (String.ofList ∘ String.toList) = endpoint.segments := by
    simp [Function.comp_def]
  rw [original] at isAddress
  rw [sentFor_eq isEndpoint, Config.get]
  exact (config.client network).head?_arrived_send "GET" isAddress _ _

theorem url_of_head?_sentFor (located : config.url = base.written) {query : Query}
    {endpoint : Endpoint} (isEndpoint : Endpoint.ofQuery? config.kind query = some endpoint)
    (dotless : endpoint.IsDotless) {network : Http.Network} {earlier : List Query}
    {request : Http.Request}
    (sent : ((ofConfig network config).sentFor earlier query).head? = some request) :
    request.url = endpoint.url base := by
  obtain ⟨first, url, isFirst⟩ := head?_sentFor located isEndpoint dotless network earlier
  rw [sent] at isFirst
  split at isFirst
  · cases isFirst
  · cases isFirst
    exact url

/-- The first request for a question asks the partner's server for its own segments, the fixed ones
of the endpoint, and the local names, each as one segment, in which nothing ends a segment or the
path. Its target tells which endpoint and which names these are, whatever else the partner is
asked. -/
theorem target_names_endpoint (located : config.url = base.written) (network : Http.Network) :
    (∀ earlier query endpoint, Endpoint.ofQuery? config.kind query = some endpoint →
      endpoint.IsDotless → ∃ request segments,
        ((ofConfig network config).sentFor earlier query).head? =
          (if network request = .unreachable then none else some request) ∧
        request.url.host = base.host ∧ request.url.port = base.port ∧
        request.url.target = "/" ++ "/".intercalate (base.segments ++ segments) ∧
        (∀ segment ∈ segments, '/' ∉ segment.toList ∧ '?' ∉ segment.toList) ∧
        segments.mapM decodeText? = some endpoint.meaning) ∧
    ∀ earlier earlierThen query other endpoint otherEndpoint request otherRequest,
      Endpoint.ofQuery? config.kind query = some endpoint → endpoint.IsDotless →
      Endpoint.ofQuery? config.kind other = some otherEndpoint → otherEndpoint.IsDotless →
      ((ofConfig network config).sentFor earlier query).head? = some request →
      ((ofConfig network config).sentFor earlierThen other).head? = some otherRequest →
      request.url.target = otherRequest.url.target → endpoint = otherEndpoint := by
  constructor
  · intro earlier query endpoint isEndpoint dotless
    obtain ⟨request, url, sent⟩ := head?_sentFor located isEndpoint dotless network earlier
    refine ⟨request, endpoint.segments, sent, ?_, ?_, ?_,
      fun segment => Endpoint.ends_not_mem_of_mem_segments dotless,
      endpoint.mapM_decodeText?_segments⟩
    · rw [url, Endpoint.url]
    · rw [url, Endpoint.url]
    · rw [url]
      exact String.append_empty
  · intro earlier earlierThen query other endpoint otherEndpoint request otherRequest isEndpoint
      dotless isOther dotlessOther sent sentOther same
    rw [url_of_head?_sentFor located isEndpoint dotless sent,
      url_of_head?_sentFor located isOther dotlessOther sentOther] at same
    exact Endpoint.target_injective dotless dotlessOther same

end Targets

/-- The address `http://partner.test:8080/api`. -/
def sampleBase : Http.Url.Base where
  place := "partner.test:8080".toList
  host := "partner.test"
  port := 8080
  path := "/api".toList
  isPlace := by decide +kernel
  place_plain := by simp [Http.Url.isPlaceChar, Http.Url.isSlash, Http.Url.isKept]
  path_begins := by simp [Http.Url.isSlash]
  path_plain := by simp [Http.Url.isKept]
  dotless := by decide

/-- A partner at that address. -/
def sampleConfig (kind : Kind) : Config where
  kind := kind
  url := sampleBase.written
  credentials := ⟨"user", "secret"⟩
  timeout := 2000
  organization := "partner.test"
  name := "partner"
  listsMembers := true

/-- The targets of the requests for a question to the partner, which keeps silent. -/
def sampleTargets (kind : Kind) (query : Query) : List String :=
  ((ofConfig (fun _ => .silent) (sampleConfig kind)).sentFor [] query).map (·.url.target)

/-- A name that is a path itself leads along no other path: a server that keeps silent has been
asked for the groups of the person with this name, and not for a group of another person. -/
theorem target_names_endpoint_slashes :
    (sampleConfig .voot2).url = sampleBase.written ∧
      ∃ request other,
        ((ofConfig (fun _ => .silent) (sampleConfig .voot2)).sentFor []
          (.memberships "jane/groups/lab?")).head? = some request ∧
        ((ofConfig (fun _ => .silent) (sampleConfig .voot2)).sentFor []
          (.membership "jane" "lab")).head? = some other ∧
        request.url.target ≠ other.url.target := by
  have located : (sampleConfig .voot2).url = sampleBase.written := rfl
  obtain ⟨named, apart⟩ := target_names_endpoint located fun _ => .silent
  have isEndpoint : Endpoint.ofQuery? (sampleConfig .voot2).kind
      (.memberships "jane/groups/lab?") = some (.userGroups "jane/groups/lab?") := by
    decide +kernel
  have dotless : (Endpoint.userGroups "jane/groups/lab?").IsDotless := by decide
  have isOther : Endpoint.ofQuery? (sampleConfig .voot2).kind (.membership "jane" "lab") =
      some (.userGroup "jane" "lab") := by
    decide +kernel
  have dotlessOther : (Endpoint.userGroup "jane" "lab").IsDotless := by decide
  obtain ⟨request, segments, sent, -⟩ := named [] _ _ isEndpoint dotless
  obtain ⟨other, otherSegments, sentOther, -⟩ := named [] _ _ isOther dotlessOther
  refine ⟨located, request, other, sent, sentOther, fun same => ?_⟩
  cases apart [] [] _ _ _ _ _ _ isEndpoint dotless isOther dotlessOther sent sentOther same

/-- With OpenSocial the target of a question about one group does not name the group; and dots for a
name lead out of the endpoint. -/
theorem target_names_no_group :
    Config.ofEntry ⟨"open_social", "http://partner.test:8080/api", "user", "secret", 2000,
        "partner.test", "partner", true⟩ = .ok (sampleConfig .openSocial) ∧
      Urn.localPart .group "urn:collab:group:partner.test:lab" = "lab" ∧
      Urn.localPart .group "urn:collab:group:partner.test:pub" = "pub" ∧
      sampleTargets .openSocial (.membership "jane" "urn:collab:group:partner.test:lab") =
        ["/api/groups/jane"] ∧
      sampleTargets .openSocial (.membership "jane" "urn:collab:group:partner.test:pub") =
        ["/api/groups/jane"] ∧
      sampleTargets .openSocial (.memberships "..") = ["/api/"] ∧
      sampleTargets .voot2 (.memberships "..") = ["/api/groups"] := by
  decide +kernel

end Provider

end GroupFederation
