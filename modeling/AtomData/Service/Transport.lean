import AtomData.Table

/-!
# Transport

What answers requests: a table of replies by address, and the addresses requested so far.  An
address without a reply is refused at once; one that is silent never gets an answer.
-/

namespace AtomData

structure Response where
  status : Nat
  body : String
  deriving DecidableEq, Repr

namespace Response

def isSuccess (r : Response) : Bool := 200 ≤ r.status && r.status < 300

def isNotFound (r : Response) : Bool := r.status == 404

end Response

inductive Reply where
  | answer (r : Response)
  | silence
  deriving DecidableEq, Repr

structure Transport where
  replies : Table Reply
  requests : List String

namespace Transport

def empty : Transport := ⟨.empty, []⟩

def reply? (t : Transport) (url : String) : Option Reply := t.replies.get? url

def setReply (t : Transport) (url : String) (reply : Reply) : Transport :=
  { t with replies := t.replies.set url reply }

def record (t : Transport) (url : String) : Transport :=
  { t with requests := t.requests ++ [url] }

def requestCount (t : Transport) (url : String) : Nat := t.requests.count url

theorem reply?_setReply (t : Transport) (url other : String) (reply : Reply) :
    (t.setReply url reply).reply? other = if other = url then some reply else t.reply? other :=
  Table.get?_set ..

theorem reply?_record (t : Transport) (url other : String) :
    (t.record url).reply? other = t.reply? other := rfl

end Transport
end AtomData
