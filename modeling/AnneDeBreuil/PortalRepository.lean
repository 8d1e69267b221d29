import AnneDeBreuil.Snapshot

namespace AnneDeBreuil

inductive StoreError
  | io (message : String)
  | serde (message : String)
  | locked
  | corrupt (message : String)
  | join (message : String)
  | sqlite (message : String)
deriving DecidableEq, Repr

/-- A store in one state, as its readers see it: `SnapshotStore` less `put`. -/
structure SnapshotStore where
  get : ScanId → Except StoreError (Option ScanSnapshot)
  list : HostId → Except StoreError (List ScanId)

/-- The authenticated caller of a request. `hostScopes` holds the members of a
set, in some order. -/
structure AuthContext where
  tokenId : String
  hostScopes : List HostId
deriving DecidableEq, Repr

inductive PortalError
  | forbidden
  | store (error : StoreError)
deriving DecidableEq, Repr

structure SnapshotRepository where
  listForHost : AuthContext → HostId → Except PortalError (List ScanId)
  getForHost : AuthContext → HostId → ScanId → Except PortalError (Option ScanSnapshot)

def storeBackedRepository (store : SnapshotStore) : SnapshotRepository where
  listForHost _ctx host := (store.list host).mapError .store
  getForHost _ctx _host scan := (store.get scan).mapError .store

def authorizingRepository (inner : SnapshotRepository) : SnapshotRepository where
  listForHost ctx host :=
    if !ctx.hostScopes.contains host then .error .forbidden else inner.listForHost ctx host
  getForHost ctx host scan :=
    if !ctx.hostScopes.contains host then .error .forbidden
    else (inner.getForHost ctx host scan).map (fun snapshot => snapshot.filter (fun s => s.hostId = host))

/-- The repository every portal handler is given. -/
def portalRepository (store : SnapshotStore) : SnapshotRepository :=
  authorizingRepository (storeBackedRepository store)

end AnneDeBreuil
