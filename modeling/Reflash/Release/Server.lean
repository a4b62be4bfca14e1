import Reflash.Release.Basic

/-!
# Release.Server — where releases are looked up

A server publishes the releases of repositories under addresses that follow from the owner and the
name of a repository.
-/

namespace Reflash

/-- A repository on a server; `base` is the address that all others start with. -/
structure Server where
  owner : String
  name : String
  base : String := "https://api.github.com"
  deriving DecidableEq, Repr

namespace Server

/-- The repository in which the firmware of a model is released. -/
def ofModel (m : Model) : Server where
  owner := Model.repositoryOwner
  name := m.repositoryName

/-- Takes another base address, without the slashes at its end. -/
def withBase (s : Server) (base : String) : Server :=
  { s with base := String.ofList (base.toList.reverse.dropWhile (· = '/')).reverse }

/-- The repository with its owner. -/
def slug (s : Server) : String :=
  s!"{s.owner}/{s.name}"

/-- The address of a release, or of the latest one. -/
def releaseAddress (s : Server) (tag : Option String) : String :=
  let which := match tag with
    | some tag => s!"tags/{tag}"
    | none => "latest"
  s!"{s.base}/repos/{s.slug}/releases/{which}"

/-- Looks up a release; `fetch` tells what is found at an address. -/
def lookUp (fetch : String → Except String Release) (s : Server) (tag : Option String) :
    Except ReleaseError Release :=
  (fetch (s.releaseAddress tag)).mapError .transfer

end Server
end Reflash
