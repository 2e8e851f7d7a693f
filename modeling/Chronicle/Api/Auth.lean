import Mathlib.Logic.Basic

set_option autoImplicit false

namespace Chronicle.Api

-- The rejections of `Auth`: `RequestError` and `AuthError::InvalidJwt`
inductive AuthRejection (JwtError : Type) where
  | request
  | invalidJwt (error : JwtError)
deriving DecidableEq, Repr

-- What `Auth` reads of `ApiConfigData`
structure AuthConfig (JwtError : Type) where
  isPublicRoute : String → Bool
  validate : String → Except JwtError Unit

-- `Auth::from_request_parts`
def authorize {JwtError : Type} (config : AuthConfig JwtError) (uri : String)
    (bearer : Option String) : Except (AuthRejection JwtError) Unit :=
  if config.isPublicRoute uri then .ok ()
  else
    match bearer with
    | none => .error .request
    | some token =>
      match config.validate token with
      | .ok () => .ok ()
      | .error error => .error (.invalidJwt error)

end Chronicle.Api
