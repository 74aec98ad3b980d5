import TargetHealth.Http.Uri
import TargetHealth.Metrics.Report

namespace TargetHealth.Metrics

structure Response where
  status : Nat
  reason : String
  contentType : String
  body : String
deriving DecidableEq, Repr

namespace Response

def statusLine (r : Response) : String := "HTTP/1.1 " ++ toString r.status ++ " " ++ r.reason

def answering (r : Response) (method : String) : Response := if method = "HEAD" then { r with body := "" } else r

end Response

def notFound : Response := ⟨404, "Not Found", "text/plain", "Not Found"⟩

def respond (m : Metrics) (path : String) (target : Http.Uri) : Response :=
  if target.resource = path then ⟨200, "OK", "text/plain; version=0.0.4", m.text⟩ else notFound

end TargetHealth.Metrics
