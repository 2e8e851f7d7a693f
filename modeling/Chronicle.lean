import Chronicle.Types.Ledger
import Chronicle.Types.Block
import Chronicle.Analytics.Core
import Chronicle.Analytics.Milestone
import Chronicle.Analytics.ActiveAddresses
import Chronicle.Time.Date
import Chronicle.Analytics.Interval
import Chronicle.Api.Paging
import Chronicle.Api.PagingWrites
import Chronicle.Api.Auth
import Chronicle.Db.Output
