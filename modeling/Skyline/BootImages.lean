import Skyline.ServerListing

/-!
The image that a server is shown with. It should be the server's own or, where Nova reports
none, the one that its root volume was made from. The handler puts down the image of every
volume that is attached to a server, whichever its device, each in place of the one before,
and takes what is put down before the server's own image. So what is shown is right just
where the last of these volumes happens to be.
-/
namespace Skyline.Extension
open Skyline.Effects Skyline.Programs Skyline.Python Skyline.Raising Skyline.Tables Skyline.Services
open Skyline.Session (Profile)
open Skyline.Cloud (KeystoneSession ownSession)

variable {env : Env} {content : Content} {conf : Conf} {lib : Lib} {profile : Profile}

/-! ## What a server boots from -/

/-- The image that an entry shows or a volume records; an empty identifier is none. -/
structure BootImage where
  image : Option String := none
  imageName : Option String := none
  imageOsDistro : Option String := none
  deriving DecidableEq, Repr

def ServerEntry.bootImage (e : ServerEntry) : BootImage := ⟨e.image.filter truthy, e.imageName, e.imageOsDistro⟩

def ImageMetadata.bootImage (m : ImageMetadata) : BootImage := ⟨m.imageId.filter truthy, m.imageName, m.osDistro⟩

/-- The devices of the servers and of the attachments, which the handler does not read. -/
structure Devices where
  rootDeviceName : Server → Option String
  device : Volume → Attachment → Option String

/-- A volume that is attached to a server as its root device. -/
structure Devices.Root (devices : Devices) (content : Content) (s : Server) (v : Volume) : Prop where
  held : v ∈ content.volumes
  attached : v.id ∈ s.volumesAttached
  device : ∃ a ∈ v.attachments, a.serverId = some s.id ∧ (devices.device v a).isSome = true ∧
    devices.device v a = devices.rootDeviceName s

/-- A server boots from its own image, or else from what its root volume was made from. -/
def BootsFrom (content : Content) (devices : Devices) (s : Server) (b : BootImage) : Prop :=
  match s.image.filter truthy with
  | some i => b.image = some i ∧ ∀ g ∈ content.images, g.id = i → b.imageName = some g.name ∧ b.imageOsDistro = g.osDistro
  | none => (∃ v, devices.Root content s v ∧ b = (v.volumeImageMetadata.map ImageMetadata.bootImage).getD {}) ∨
      (∀ v, ¬ devices.Root content s v) ∧ b = {}

/-! ## What is shown -/

/-- The last of the volumes that record an image for a server, in the order in which Cinder's
    batches list them, records what the server boots from; where there is none, the server has
    an image of its own, or boots from none. -/
def LastRecordsBoot (content : Content) (devices : Devices) (volumes : List Volume) (s : Server) : Prop :=
  match lastRecorded volumes s.id with
  | some m => BootsFrom content devices s m.bootImage
  | none => truthy? s.image = true ∨ BootsFrom content devices s {}

theorem enrichServer_recorded {volumes : List Volume} {s : Server} {m : ImageMetadata}
    (recorded : lastRecorded volumes s.id = some m) (allProjects : Bool) (images : List Image) :
    (enrichServer allProjects images volumes s).bootImage = m.bootImage := by
  rw [enrichServer, dictGet_serImageMappings, recorded]
  rfl

variable {devices : Devices}

/-- Without a record an entry shows the server's own image, by its name where Glance knows it. -/
theorem enrichServer_own {volumes : List Volume} {s : Server} {i : String} {ids : List String}
    (recorded : lastRecorded volumes s.id = none) (own : s.image.filter truthy = some i) (asked : i ∈ ids)
    (allProjects : Bool) :
    BootsFrom content devices s (enrichServer allProjects (env.imagesById content ids) volumes s).bootImage := by
  obtain ⟨image, named⟩ := Option.filter_eq_some_iff.mp own
  have complete : ∀ g ∈ content.images, g.id = i → g ∈ env.imagesById content ids :=
    fun g held is => mem_imagesById.mpr ⟨held, is ▸ asked⟩
  have glance := dictGet_fetched (fun g => g) (fun g there => (mem_imagesById.mp there).1) complete
  rw [BootsFrom, own, enrichServer, dictGet_serImageMappings, recorded, own]
  dsimp only
  rw [glance]
  cases found : content.images.find i with
  | none =>
    refine ⟨own, fun g held is => absurd is (Table.find_eq_none.mp found g held)⟩
  | some info =>
    obtain ⟨known, is⟩ := Table.find_eq_some.mp found
    refine ⟨own, fun g held same => ?_⟩
    rw [Table.eq_of_key held known (same.trans is.symm)]
    exact ⟨rfl, rfl⟩

theorem enrichServer_blank {volumes : List Volume} {s : Server} (recorded : lastRecorded volumes s.id = none)
    (own : s.image.filter truthy = none) (allProjects : Bool) (images : List Image) :
    (enrichServer allProjects images volumes s).bootImage = {} := by
  rw [enrichServer, dictGet_serImageMappings, recorded, own]
  exact congrArg (fun image => BootImage.mk image none none) own

/-- What an entry shows is what its server boots from iff the last record says so. -/
theorem enrichServer_boots_iff {volumes : List Volume} {s : Server} {ids : List String}
    (asked : ∀ i, s.image.filter truthy = some i → i ∈ ids) (allProjects : Bool) :
    BootsFrom content devices s (enrichServer allProjects (env.imagesById content ids) volumes s).bootImage ↔
      LastRecordsBoot content devices volumes s := by
  rw [LastRecordsBoot]
  cases recorded : lastRecorded volumes s.id with
  | some m => rw [enrichServer_recorded recorded]
  | none =>
    cases own : s.image.filter truthy with
    | some i =>
      have given : truthy? s.image = true := by
        obtain ⟨image, named⟩ := Option.filter_eq_some_iff.mp own
        rw [image]
        exact named
      exact iff_of_true (enrichServer_own recorded own (asked i own) allProjects) (.inl given)
    | none =>
      have blank : truthy? s.image = false := by
        cases image : s.image with
        | none => rfl
        | some i => simpa [image, truthy?] using own
      rw [enrichServer_blank recorded own, blank]
      simp

/-! ## What is returned -/

theorem listServersHandler_passesOn (conf : Conf) (lib : Lib) (profile : Profile) (query : ServerQuery) :
    (listServersHandler conf lib profile query).PassesOn := by
  refine .bind (gate_passesOn _ _ _ _) fun _ => .bind (generateSession_passesOn _) fun session => ?_
  refine .bind (recycleProject_passesOn _ _ _ _) fun project => ?_
  cases project with
  | none => exact .done _
  | some projectId =>
    refine .bind (.remote _) fun servers => .bind (.gather fun ids => .remote _) fun images => ?_
    refine .bind (.gather fun ids => .bind (.remote _) fun volumes => .pure _) fun volumes => ?_
    exact .ite (.bind (.remote _) fun projects => .bind (.done _) fun result => .done _) (.done _)

/-- The entries that a run returns are those of the servers, which the names of projects leave
    as they are. -/
theorem listServersHandler_returned {query : ServerQuery} {w : World Call Content} (here : Holds content w)
    {entries : List ServerEntry}
    (returned : ((listServersHandler conf lib profile query).run env.backend.serve w).1 = .ok entries) :
    List.Forall₂ (fun (made e : ServerEntry) => e.id = made.id ∧ e.bootImage = made.bootImage)
      (env.serverEntries content lib (query.allProjects.getD false) (env.serversListed content profile query)) entries := by
  have came := eval_of_run (listServersHandler_passesOn conf lib profile query) here returned
  obtain ⟨_, passed, -⟩ := Program.of_eval_bind_ok came
  rw [listServers_eval query (gate_allowed passed)] at came
  split at came
  · next all =>
    obtain ⟨result, named, responded⟩ := bind_ok_iff.mp came
    rw [all, (serversResponse_ok.mp responded).2]
    refine (mapM_ok.mp named).imp fun made e named => ?_
    obtain ⟨p, -, -, rfl⟩ := nameProject_ok.mp named
    exact ⟨rfl, rfl⟩
  · next own =>
    rw [Bool.eq_false_iff.mpr own, (serversResponse_ok.mp came).2]
    exact List.forall₂_same.mpr fun e _ => ⟨rfl, rfl⟩

/-- The servers that a listing returns are shown with the images that they boot from, iff for
    each the last volume that records an image for it records that one. -/
theorem listServers_boots_iff (env : Env) (content : Content) (conf : Conf) (lib : Lib) (profile : Profile)
    (devices : Devices) (query : ServerQuery) (w : World Call Content) (here : Holds content w)
    (entries : List ServerEntry)
    (returned : ((listServersHandler conf lib profile query).run env.backend.serve w).1 = .ok entries) :
    List.Forall₂ (fun s (e : ServerEntry) => e.id = s.id ∧ BootsFrom content devices s e.bootImage)
        (env.serversListed content profile query) entries ↔
      ∀ s ∈ env.serversListed content profile query, LastRecordsBoot content devices
        (env.volumesById content (lib.listOfSet ((env.serversListed content profile query).flatMap (·.volumesAttached)))) s := by
  have made := listServersHandler_returned here returned
  rw [Env.serverEntries, List.forall₂_map_left_iff] at made
  refine forall₂_iff_forall made fun s member e same => ?_
  rw [same.1, same.2, enrichServer_id, and_iff_right rfl]
  refine enrichServer_boots_iff (fun i own => ?_) _
  obtain ⟨image, named⟩ := Option.filter_eq_some_iff.mp own
  rw [mem_listOfSet, List.mem_filter, List.mem_filterMap]
  exact ⟨⟨s, member, image⟩, named⟩

/-! ### A server with a data volume -/

def debian : String := "33333333-3333-4333-8333-33333333333d"

def cirros : String := "33333333-3333-4333-8333-33333333333c"

/-- A server that boots from its own image, with a data volume that was made from another. -/
def dataVolume : Content where
  servers := ⟨[⟨vmA, "web", "a", none, some debian, [volA], none⟩], List.nodup_singleton _⟩
  volumes := ⟨[⟨volA, "data", "a", none, none, [⟨some vmA, none⟩], some ⟨some cirros, some "CirrOS", none⟩⟩],
    List.nodup_singleton _⟩
  snapshots := Table.empty
  images := ⟨[⟨debian, "Debian 12", some "debian"⟩], List.nodup_singleton _⟩
  projects := hersOnly

/-- The root device is the server's own disk, and the volume is another. -/
def ownDisk : Devices := ⟨fun _ => some "/dev/vda", fun _ _ => some "/dev/vdb"⟩

def shownEntry : ServerEntry := ⟨vmA, "a", none, none, some cirros, some "CirrOS", none⟩

theorem dataVolume_boots_iff :
    List.Forall₂ (fun s (e : ServerEntry) => e.id = s.id ∧ BootsFrom dataVolume ownDisk s e.bootImage)
        (answering.serversListed dataVolume alice {}) [shownEntry] ↔
      ∀ s ∈ answering.serversListed dataVolume alice {}, LastRecordsBoot dataVolume ownDisk
        (answering.volumesById dataVolume
          (inOrder.listOfSet ((answering.serversListed dataVolume alice {}).flatMap (·.volumesAttached)))) s :=
  listServers_boots_iff answering dataVolume defaultRoles inOrder alice ownDisk {} ⟨dataVolume, []⟩ rfl [shownEntry] rfl

/-- The server is shown with the image of its data volume. -/
theorem data_volume_shown : ¬ ∀ (env : Env) (content : Content) (conf : Conf) (lib : Lib) (profile : Profile)
    (devices : Devices) (query : ServerQuery) (w : World Call Content), Answers env → CinderLists env →
      Holds content w → ∀ entries, ((listServersHandler conf lib profile query).run env.backend.serve w).1 = .ok entries →
      List.Forall₂ (fun s (e : ServerEntry) => e.id = s.id ∧ BootsFrom content devices s e.bootImage)
        (env.serversListed content profile query) entries := by
  intro always
  have all := always answering dataVolume defaultRoles inOrder alice ownDisk {} ⟨dataVolume, []⟩ (fun _ _ => rfl)
    ⟨rfl, fun _ _ => rfl, fun _ _ => rfl⟩ rfl [shownEntry] rfl
  obtain ⟨e, others, ⟨-, boots⟩, -, same⟩ := List.forall₂_cons_left_iff.mp all
  cases same
  have wrong : cirros = debian := Option.some.inj boots.1
  revert wrong
  decide

end Skyline.Extension
