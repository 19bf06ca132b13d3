namespace Rollout

-- The pages that descriptions send the reader to.
namespace Page

def address (site page : String) : String :=
  let scheme := "https"
  s!"{scheme}://{site}/{page}"

-- The manual of the cluster.
def manual (page : String) : String := address "kubernetes.io/docs/concepts" page

-- The conventions that resources keep.
def conventions (place : String) : String :=
  address "git.k8s.io" ("community/contributors/devel/sig-architecture/api-conventions.md" ++ place)

def workingWithObjects (page : String) : String := manual ("overview/working-with-objects/" ++ page)

-- Ends a description with a page.
def more (text page : String) : String := s!"{text} More info: {page}"

end Page

end Rollout
